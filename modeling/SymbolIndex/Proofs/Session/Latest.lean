import SymbolIndex.Proofs.Session.Answers
import SymbolIndex.Proofs.Session.History

/-!
# The latest call wins

A call is overtaken once another begins. So calls commit in the order in which they began
(`commits`), what is remembered is what the last of them committed, and it does not change between
what a call reads and what it commits.
-/

namespace SymbolIndex.Session

open History (log log_concat)

variable {s t : Session} {c d : Call} {phase : Phase} {generation : Nat} {r : Response}
  {a : Action} {setup : Setup} {actions : List Action} {snapshot : Snapshot}
  {warnings : List Warning}

/-! ### Responses -/

/-- A call without key characters has a blank response; that of any other has its query. Both
have its number. -/
def Proper (c : Call) : Prop :=
  c.query = "" ∧ c.phase = .finished (.blank c.generation) ∨
    c.query ≠ "" ∧ ∀ r, c.phase = .finished r → r.query = c.query ∧ r.generation = c.generation

theorem CallStep.proper (h : CallStep s c phase) (hc : Proper c) :
    Proper { c with phase := phase } := by
  rcases hc with ⟨_, hblank⟩ | ⟨hquery, _⟩
  · exact absurd hblank (h.not_finished _)
  · refine .inr ⟨hquery, fun r hr => ?_⟩
    cases h <;> cases hr <;> exact ⟨rfl, rfl⟩

theorem proper_run (setup : Setup) (actions : List Action) :
    ∀ c ∈ ((start setup).run actions).calls, Proper c := by
  have hrun : Numbered ((start setup).run actions) ∧
      ∀ c ∈ ((start setup).run actions).calls, Proper c := by
    refine run_induction (P := fun t => Numbered t ∧ ∀ c ∈ t.calls, Proper c)
      ⟨numbered_start setup, nofun⟩ fun t ⟨hn, ht⟩ a _ => ⟨hn.step a, ?_⟩
    exact forall_calls_step hn ht (fun _ _ h => h) (.inl ⟨rfl, rfl⟩)
      (fun _ hq => .inr ⟨hq, nofun⟩) fun _ _ _ _ hstep h => hstep.proper h
  exact hrun.2

theorem Numbered.answered_step (hn : Numbered s) (h : s.answered generation = some r) (a : Action) :
    (s.step a).answered generation = some r := by
  obtain ⟨c, hc, hgen, hphase⟩ := hn.answered_eq_some.1 h
  obtain ⟨d, hd, hcd⟩ := exists_call_step hn hc a
  exact (hn.step a).answered_eq_some.2 ⟨d, hd, hcd.generation.trans hgen, hcd.finished r hphase⟩

theorem Numbered.response_of_call (hn : Numbered s) (hproper : ∀ c ∈ s.calls, Proper c)
    (hc : c ∈ s.calls) (hquery : c.query ≠ "") (hr : s.answered c.generation = some r) :
    r.query = c.query ∧ r.generation = c.generation := by
  obtain ⟨d, hd, hgen, hphase⟩ := hn.answered_eq_some.1 hr
  obtain rfl := hn.eq_of_generation hd hc hgen
  rcases hproper d hd with ⟨hblank, _⟩ | ⟨_, hresponse⟩
  · exact absurd hblank hquery
  · exact hresponse r hphase

/-- A response that is not blank is given by a step of its call. -/
theorem Numbered.exists_callStep (hn : Numbered s) (hopen : s.answered generation = none)
    (hr : (s.step a).answered generation = some r) (hquery : r.query ≠ "") :
    ∃ c ∈ s.calls, c.generation = generation ∧ a = .advanceCall generation ∧
      CallStep s c (.finished r) := by
  obtain ⟨d, hd, hgen, hphase⟩ := (hn.step a).answered_eq_some.1 hr
  refine forall_calls_step (I := fun _ => True) (J := fun d => d.generation = generation →
    d.phase = .finished r → ∃ c ∈ s.calls, c.generation = generation ∧
      a = .advanceCall generation ∧ CallStep s c (.finished r))
    hn (fun _ _ => trivial) ?_ ?_ ?_ ?_ d hd hgen hphase
  · intro c hc _ hgen hphase
    rw [hn.answered_eq_some.2 ⟨c, hc, hgen, hphase⟩] at hopen
    cases hopen
  · rintro _ ⟨⟩
    exact absurd rfl hquery
  · rintro query _ _ ⟨⟩
  · rintro c hc phase ha hstep _ hgen rfl
    exact ⟨c, hc, hgen, hgen ▸ ha, hstep⟩

/-! ### Commits -/

/-- The number and the matches that an action commits. -/
def committed (s : Session) : Action → List (Nat × Snapshot)
  | .advanceCall generation =>
    match (s.call? generation).map Call.phase with
    | some (.matched snapshot _) =>
      if generation = s.generation then [(generation, snapshot)] else []
    | _ => []
  | _ => []

/-- All that calls committed, in order. -/
def commits (setup : Setup) (actions : List Action) : List (Nat × Snapshot) :=
  log step committed (start setup) actions

theorem commits_concat (setup : Setup) (actions : List Action) (a : Action) :
    commits setup (actions ++ [a]) =
      commits setup actions ++ committed ((start setup).run actions) a :=
  log_concat _ _ _

/-- The newest call commits what it matched. -/
structure Commits (s : Session) (a : Action) (c : Call) (snapshot : Snapshot)
    (warnings : List Warning) : Prop where
  mem : c ∈ s.calls
  action : a = .advanceCall c.generation
  phase : c.phase = .matched snapshot warnings
  newest : c.generation = s.generation

theorem Commits.committed_eq (h : Commits s a c snapshot warnings) (hn : Numbered s) :
    committed s a = [(c.generation, snapshot)] := by
  have hc : s.call? c.generation = some c := hn.call?_eq_some.2 ⟨h.mem, rfl⟩
  rw [h.action, committed, hc, Option.map_some, h.phase]
  simp only [h.newest, if_true]

theorem Numbered.committed_cases (hn : Numbered s) (a : Action) :
    committed s a = [] ∨ ∃ c snapshot warnings, Commits s a c snapshot warnings := by
  unfold committed
  split
  · split
    · rename_i g last warnings hc
      split
      · rename_i hg
        obtain ⟨c, hc, hphase⟩ := Option.map_eq_some_iff.1 hc
        obtain ⟨hmem, rfl⟩ := hn.call?_eq_some.1 hc
        exact .inr ⟨c, last, warnings, hmem, rfl, hphase, hg⟩
      · exact .inl rfl
    · exact .inl rfl
  · exact .inl rfl

theorem Commits.step_eq (h : Commits s a c snapshot warnings) (hn : Numbered s) :
    s.step a = { s.setPhase c.generation (.finished (s.respond c snapshot warnings)) with
      last := some snapshot } := by
  have hc : s.call? c.generation = some c := hn.call?_eq_some.2 ⟨h.mem, rfl⟩
  rw [h.action, step, advanceCall, hc]
  simp only [advanceOf, h.phase, h.newest, if_true]

theorem Commits.response (h : Commits s a c snapshot warnings) (hn : Numbered s) :
    (s.step a).answered c.generation = some (s.respond c snapshot warnings) := by
  refine (hn.step a).answered_eq_some.2
    ⟨{ c with phase := .finished (s.respond c snapshot warnings) }, ?_, rfl, rfl⟩
  rw [h.step_eq hn]
  exact (hn.mem_setPhase h.mem).2 (.inl rfl)

theorem Commits.answered_eq_none (h : Commits s a c snapshot warnings) (hn : Numbered s) :
    s.answered c.generation = none := by
  cases hr : s.answered c.generation with
  | none => rfl
  | some r =>
    obtain ⟨d, hd, hgen, hphase⟩ := hn.answered_eq_some.1 hr
    obtain rfl := hn.eq_of_generation hd h.mem hgen
    rw [h.phase] at hphase
    cases hphase

/-- What is remembered changes by commits only. -/
theorem Numbered.last_step (hn : Numbered s) (a : Action) :
    (s.step a).last = s.last ∧ committed s a = [] ∨
      ∃ c snapshot warnings, Commits s a c snapshot warnings ∧
        (s.step a).last = some snapshot := by
  rcases hn.committed_cases a with hnone | ⟨c, snapshot, warnings, h⟩
  · refine .inl ⟨?_, hnone⟩
    rcases step_calls s a with h | ⟨text, _, h⟩ | ⟨c, hc, ha, h⟩
    · exact h.last
    · rw [h]
      rfl
    · rw [h]
      rcases advanceOf_cases s c with ⟨hidle, _⟩ | ⟨_, _, _, hkept | ⟨snapshot, w, hphase, hg, _⟩⟩
      · rw [hidle]
      · exact hkept
      · have hcommits : Commits s a c snapshot w := ⟨(hn.call?_eq_some.1 hc).1, ha, hphase, hg⟩
        rw [hcommits.committed_eq hn] at hnone
        cases hnone
  · refine .inr ⟨c, snapshot, warnings, h, ?_⟩
    rw [h.step_eq hn]

/-- A call with key characters has a response of its own. -/
def OwnResponse (s : Session) (generation : Nat) : Prop :=
  ∃ r, s.answered generation = some r ∧ r.query ≠ "" ∧ r.superseded = false

/-- Commits and responses of their own come together. -/
theorem ownResponse_step (hn : Numbered s) (hproper : ∀ c ∈ s.calls, Proper c) (a : Action) :
    OwnResponse (s.step a) generation ↔
      OwnResponse s generation ∨ generation ∈ (committed s a).map (·.1) := by
  constructor
  · rintro ⟨r, hr, hquery, hcurrent⟩
    cases hbefore : s.answered generation with
    | some r' =>
      have hsame := hn.answered_step hbefore a
      obtain rfl : r = r' := Option.some.inj (hr.symm.trans hsame)
      exact .inl ⟨r, hbefore, hquery, hcurrent⟩
    | none =>
      right
      obtain ⟨c, hc, rfl, ha, hstep⟩ := hn.exists_callStep hbefore hr hquery
      cases hstep with
      | commit snapshot warnings hphase hnewest =>
        have hcommits : Commits s a c snapshot warnings := ⟨hc, ha, hphase, hnewest⟩
        rw [hcommits.committed_eq hn]
        exact List.mem_singleton_self _
      | overtaken => cases hcurrent
      | late => cases hcurrent
  · rintro (⟨r, hr, hquery, hcurrent⟩ | hmem)
    · exact ⟨r, hn.answered_step hr a, hquery, hcurrent⟩
    · rcases hn.committed_cases a with hnone | ⟨c, snapshot, warnings, h⟩
      · rw [hnone] at hmem
        cases hmem
      · rw [h.committed_eq hn, List.map_singleton, List.mem_singleton] at hmem
        subst hmem
        refine ⟨_, h.response hn, ?_, rfl⟩
        rcases hproper c h.mem with ⟨_, hblank⟩ | ⟨hquery, _⟩
        · rw [h.phase] at hblank
          cases hblank
        · exact hquery

/-- What the commits of a history say of the session after it. -/
structure Recorded (made : List (Nat × Snapshot)) (s : Session) : Prop where
  last : s.last = made.getLast?.map (·.2)
  ordered : (made.map (·.1)).Pairwise (· < ·)
  own : ∀ generation, generation ∈ made.map (·.1) ↔ OwnResponse s generation

theorem Recorded.step {made : List (Nat × Snapshot)} (h : Recorded made s) (hn : Numbered s)
    (hproper : ∀ c ∈ s.calls, Proper c) (a : Action) :
    Recorded (made ++ committed s a) (s.step a) where
  last := by
    rcases hn.last_step a with ⟨hlast, hnone⟩ | ⟨c, snapshot, warnings, hcommits, hlast⟩
    · rw [hlast, hnone, List.append_nil, h.last]
    · rw [hlast, hcommits.committed_eq hn]
      simp
  ordered := by
    rcases hn.committed_cases a with hnone | ⟨c, snapshot, warnings, hcommits⟩
    · rw [hnone, List.append_nil]
      exact h.ordered
    · rw [hcommits.committed_eq hn, List.map_append, List.pairwise_append]
      refine ⟨h.ordered, List.pairwise_singleton _ _, fun g hg g' hg' => ?_⟩
      obtain rfl := List.mem_singleton.1 hg'
      -- The call of an earlier commit has finished, and all calls are as old as the newest.
      obtain ⟨r, hr, _⟩ := (h.own g).1 hg
      have hne : g ≠ c.generation := by
        rintro rfl
        rw [hcommits.answered_eq_none hn] at hr
        cases hr
      obtain ⟨d, hd, rfl, _⟩ := hn.answered_eq_some.1 hr
      have hle := (hn.le_generation hd).2
      rw [← hcommits.newest] at hle
      show d.generation < c.generation
      omega
  own generation := by
    rw [List.map_append, List.mem_append, h.own, ownResponse_step hn hproper]

theorem recorded_run (setup : Setup) (actions : List Action) :
    Recorded (commits setup actions) ((start setup).run actions) := by
  refine history_induction (I := fun actions t => Recorded (commits setup actions) t)
    ⟨rfl, .nil, fun _ => ⟨nofun, ?_⟩⟩ (fun actions a h => ?_) actions
  · rintro ⟨_, hr, _⟩
    cases hr
  · rw [commits_concat]
    exact h.step (numbered_run setup actions) (proper_run setup actions) a

/-! ### The latest call -/

/-- While a call is the newest and has no response, what is remembered stays. -/
theorem Numbered.last_run (hn : Numbered s) (hc : c ∈ s.calls) (more : List Action)
    (hnewest : (s.run more).generation = c.generation)
    (hopen : (s.run more).answered c.generation = none) : (s.run more).last = s.last := by
  revert hnewest hopen
  refine history_induction (I := fun _ t => t.generation = c.generation →
    t.answered c.generation = none → t.last = s.last) (fun _ _ => rfl) (fun more a ih => ?_) more
  intro hnewest hopen
  have hn' : Numbered (s.run more) := hn.run more
  have hopen' : (s.run more).answered c.generation = none := by
    cases h : (s.run more).answered c.generation with
    | none => rfl
    | some r =>
      rw [hn'.answered_step h a] at hopen
      cases hopen
  have hle := (hn.le_generation hc).2
  have hgrown := generation_run s more
  have hstep := generation_step (s.run more) a
  have hnewest' : (s.run more).generation = c.generation := by omega
  rcases hn'.last_step a with ⟨hlast, _⟩ | ⟨d, snapshot, warnings, hcommits, _⟩
  · rw [hlast, ih hnewest' hopen']
  · rw [← hnewest', ← hcommits.newest, hcommits.response hn'] at hopen
    cases hopen

/-- Another call began after one if and only if that one is not the newest. -/
theorem begun_later_iff (setup : Setup) {before between : List Action} {text : String}
    (hactions : actions = before ++ .begin text :: between) :
    (∃ later, .begin later ∈ between) ↔
      ((start setup).run actions).generation ≠ (texts before).length + 1 := by
  have hgrown : ((start setup).run actions).generation =
      (texts before).length + 1 + (texts between).length := by
    rw [generation_start_run, hactions, texts_append, List.length_append]
    simp only [texts, List.filterMap_cons, Action.text?, List.length_cons]
    omega
  simp only [← mem_texts]
  rw [hgrown]
  constructor
  · rintro ⟨later, hmem⟩
    have := List.length_pos_of_mem hmem
    omega
  · intro hne
    exact List.exists_mem_of_length_pos (by omega)

/-- A step of a call that is not the newest leaves what is remembered. -/
theorem Numbered.last_of_overtaken (hn : Numbered s) (hg : generation ≠ s.generation) :
    (s.step (.advanceCall generation)).last = s.last := by
  rcases hn.last_step (.advanceCall generation) with ⟨hlast, _⟩ | ⟨c, _, _, hcommits, _⟩
  · exact hlast
  · exact absurd ((Action.advanceCall.inj hcommits.action).trans hcommits.newest) hg

/-- A call that ends is overtaken if and only if another began after it. -/
theorem superseded_iff {before between : List Action} {text : String}
    (hactions : actions = before ++ .begin text :: between) (hquery : Key.normalize text ≠ "")
    (hopen : ((start setup).run actions).answered ((texts before).length + 1) = none)
    (hr : (((start setup).run actions).step a).answered ((texts before).length + 1) = some r) :
    r.query = Key.normalize text ∧ r.generation = (texts before).length + 1 ∧
      (r.superseded = true ↔ ∃ later, .begin later ∈ between) ∧
      (r.superseded = true → r.results = [] ∧ r.warnings = [] ∧
        (((start setup).run actions).step a).last = ((start setup).run actions).last) := by
  have hn := numbered_run setup actions
  have hbegun := exists_begun_call (numbered_run setup before) hquery between
  rw [generation_start_run, ← run_append, ← hactions] at hbegun
  obtain ⟨c, hc, hgen, hcq⟩ := hbegun
  obtain ⟨d, hd, hcd⟩ := exists_call_step hn hc a
  have hdq : d.query = Key.normalize text := hcd.query.trans hcq
  have hdgen : d.generation = (texts before).length + 1 := hcd.generation.trans hgen
  have hproper := proper_run setup (actions ++ [a])
  rw [run_concat] at hproper
  rw [← hdgen, ← hdq]
  rw [← hdgen] at hopen hr
  obtain ⟨hrq, hrg⟩ := (hn.step a).response_of_call hproper hd (hdq ▸ hquery) hr
  refine ⟨hrq, hrg, ?_⟩
  rw [begun_later_iff setup hactions, ← hdgen]
  obtain ⟨e, _, hegen, ha, hstep⟩ := hn.exists_callStep hopen hr (hrq.trans hdq ▸ hquery)
  rw [ha, ← hegen]
  cases hstep with
  | overtaken _ hg =>
    exact ⟨⟨fun _ => hg.symm, fun _ => rfl⟩, fun _ => ⟨rfl, rfl, hn.last_of_overtaken hg⟩⟩
  | late _ _ _ hg =>
    exact ⟨⟨fun _ => hg.symm, fun _ => rfl⟩, fun _ => ⟨rfl, rfl, hn.last_of_overtaken hg⟩⟩
  | commit _ _ _ hg => exact ⟨⟨nofun, fun h => absurd hg.symm h⟩, nofun⟩

/-- Calls have the numbers 1, 2, … in the order in which they begin. One with key characters is
overtaken if and only if another begins before it ends; then its response is empty, and what is
remembered stays. Remembered is what the newest call that was not overtaken has committed; and what
a call read is still remembered when it commits. -/
theorem latest_call_wins (setup : Setup) (actions : List Action) :
    let s := (start setup).run actions
    s.calls.map (fun c => (c.generation, c.query)) =
      (texts actions).mapIdx (fun i text => (i + 1, Key.normalize text)) ∧
    (∀ before text between a r, actions = before ++ .begin text :: between →
      Key.normalize text ≠ "" → s.answered ((texts before).length + 1) = none →
      (s.step a).answered ((texts before).length + 1) = some r →
      r.query = Key.normalize text ∧ r.generation = (texts before).length + 1 ∧
        (r.superseded = true ↔ ∃ later, .begin later ∈ between) ∧
        (r.superseded = true → r.results = [] ∧ r.warnings = [] ∧ (s.step a).last = s.last)) ∧
    s.last = (commits setup actions).getLast?.map (·.2) ∧
    ((commits setup actions).map (·.1)).Pairwise (· < ·) ∧
    (∀ generation, generation ∈ (commits setup actions).map (·.1) ↔ OwnResponse s generation) ∧
    ∀ before between generation snapshot, actions = before ++ .advanceCall generation :: between →
      (((start setup).run before).call? generation).map (·.phase) = some .current →
      (generation, snapshot) ∈ committed s (.advanceCall generation) →
      s.last = ((start setup).run before).last := by
  intro s
  have hrecorded := recorded_run setup actions
  refine ⟨names_run setup actions, fun before text between a r hactions => superseded_iff hactions,
    hrecorded.last, hrecorded.ordered, hrecorded.own, ?_⟩
  intro before between generation snapshot hactions hread hmem
  have hn := numbered_run setup before
  have hn' : Numbered s := numbered_run setup actions
  have hlater : s = ((start setup).run before).run (.advanceCall generation :: between) := by
    rw [← run_append, ← hactions]
  obtain ⟨c, hc, _⟩ := Option.map_eq_some_iff.1 hread
  obtain ⟨hcmem, rfl⟩ := hn.call?_eq_some.1 hc
  obtain ⟨d, last, warnings, hcommits⟩ : ∃ d last warnings,
      Commits s (.advanceCall c.generation) d last warnings := by
    rcases hn'.committed_cases (.advanceCall c.generation) with hnone | hcommits
    · rw [hnone] at hmem
      cases hmem
    · exact hcommits
  have hgen : c.generation = d.generation := Action.advanceCall.inj hcommits.action
  have hkept := hn.last_run hcmem (.advanceCall c.generation :: between)
  rw [← hlater, hgen] at hkept
  exact hkept hcommits.newest.symm (hcommits.answered_eq_none hn')

end SymbolIndex.Session
