import Mathlib.Algebra.Order.BigOperators.Group.List
import Mathlib.Algebra.Order.Ring.Nat
import SymbolIndex.Proofs.Session.Answers
import SymbolIndex.Proofs.Session.History

/-!
# Every call is answered

Nothing gets stuck: while a call is under way, it or some load can go on (`exists_work`), and each
step of that kind takes off the work that is left. The newest call is never overtaken, so it gets
an answer of its own (`Consistent.exists_answer`).
-/

namespace SymbolIndex.Session

variable {s : Session} {c : Call} {phase : Phase} {id : String}

/-- A step of a call or a load that is under way. -/
def Action.IsWork : Action → Prop
  | .advanceCall _ | .advanceLoad _ => True
  | _ => False

theorem Action.IsWork.ne_close {a : Action} (h : a.IsWork) : a ≠ .close := by
  rintro rfl
  exact h

/-! ### Work left -/

/-- How many steps a load takes to its end. -/
def Stage.left : Stage → Nat
  | .unloaded => 8
  | .requested .nobody => 7
  | .requested .queue => 6
  | .requested .everyone => 5
  | .queued => 4
  | .fetching => 3
  | .settled _ .nobody => 2
  | .settled _ .queue => 1
  | .settled _ .everyone => 0

/-- How many steps a call takes to its end. -/
def Phase.left : Phase → Nat
  | .requesting left => left.length + 6
  | .waiting => 5
  | .current => 4
  | .reading .. => 3
  | .matched .. => 2
  | .finished _ => 0

/-- The steps that all loads take to their ends. -/
def loadsLeft (s : Session) : Nat := ((s.shards.map (·.1)).map fun id => (s.stage id).left).sum

/-- The steps that all loads and one call take to their ends. -/
def workLeft (s : Session) (generation : Nat) : Nat :=
  s.loadsLeft + ((s.call? generation).map (·.phase.left)).getD 0

theorem LoadStep.left_lt {source : Source} {closed : Bool} {before after : Stage}
    (h : LoadStep source closed id before after) : after.left < before.left := by
  cases h <;> simp [Stage.left]

theorem LoadStep?.left_le {stage' : Stage} (h : LoadStep? s id stage') :
    stage'.left ≤ (s.stage id).left := by
  rcases h with rfl | h
  · exact Nat.le_refl _
  · exact Nat.le_of_lt h.left_lt

theorem CallStep.left_lt (h : CallStep s c phase) : phase.left < c.phase.left := by
  cases h <;> simp_all [Phase.left]

theorem loadsLeft_step_le (s : Session) (a : Action) : (s.step a).loadsLeft ≤ s.loadsLeft := by
  rw [loadsLeft, loadsLeft, ids_step]
  exact List.sum_le_sum fun id _ => (stage_step s a id).left_le

theorem loadsLeft_step_lt {a : Action} (hk : s.isKnown id = true)
    (h : LoadStep s.setup.source s.closed id (s.stage id) ((s.step a).stage id)) :
    (s.step a).loadsLeft < s.loadsLeft := by
  have hid : id ∈ s.shards.map (·.1) := by
    rw [isKnown, List.any_eq_true] at hk
    obtain ⟨e, he, hei⟩ := hk
    exact (beq_iff_eq.1 hei) ▸ List.mem_map_of_mem he
  rw [loadsLeft, loadsLeft, ids_step]
  exact List.sum_lt_sum _ _ (fun id _ => (stage_step s a id).left_le) ⟨id, hid, h.left_lt⟩

/-! ### What can go on -/

/-- A load that was requested and has not ended goes on, unless it waits for a free worker. -/
theorem loadStep_advanceLoad (hk : s.isKnown id = true) (hrequested : s.stage id ≠ .unloaded)
    (hopen : (s.stage id).isResolved = false)
    (hfree : s.stage id = .queued → s.fetchCount < max 1 s.setup.workers.toNat) :
    LoadStep s.setup.source s.closed id (s.stage id) ((s.advanceLoad id).stage id) := by
  have hset : ∀ (t : Session) (st : Stage), t.shards = s.shards →
      (t.setStage id st).stage id = st := by
    intro t st ht
    apply stage_setStage_self
    rwa [isKnown, ht]
  unfold advanceLoad tell
  cases hst : s.stage id with
  | unloaded => exact absurd hst hrequested
  | requested told =>
    cases told with
    | nobody =>
      simp only
      rw [hset (s.enqueue _) _ rfl]
      exact .announce
    | queue =>
      simp only
      rw [hset _ _ (by split <;> rfl)]
      exact .tell
    | everyone =>
      simp only
      rw [hset _ _ rfl]
      split
      · rename_i hclosed; exact .refuse hclosed
      · rename_i hclosed; exact .submit (by simpa using hclosed)
  | queued =>
    simp only
    rw [if_pos (hfree hst)]
    have hfetch : ({ s.setStage id .fetching with fetched := s.fetched ++ [id] } : Session).stage id
        = .fetching := hset s .fetching rfl
    rw [hfetch]
    exact .fetch
  | fetching =>
    simp only
    rw [hset _ _ rfl]
    exact .settle
  | settled o told =>
    cases told with
    | nobody =>
      simp only
      rw [hset (s.enqueue _) _ rfl]
      exact .announceOutcome o
    | queue =>
      simp only
      rw [hset _ _ (by split <;> rfl)]
      exact .tellOutcome o
    | everyone =>
      rw [hst] at hopen
      cases hopen

theorem Sound.stage_of_mem (hs : Sound s) {e : String × Stage} (he : e ∈ s.shards) :
    s.stage e.1 = e.2 := by
  have hn : (s.shards.map (·.1)).Nodup := by
    rw [hs.ids]
    exact nodup_eraseDups _
  rw [stage, find?_of_nodup hn he]

/-- While no worker is free, some fetch is under way. -/
theorem Sound.exists_fetching (hs : Sound s)
    (h : ¬ s.fetchCount < max 1 s.setup.workers.toNat) :
    ∃ id, s.isKnown id = true ∧ s.stage id = .fetching := by
  have hpos : 0 < s.fetchCount := by omega
  rw [fetchCount, List.countP_pos_iff] at hpos
  obtain ⟨e, he, hfetch⟩ := hpos
  refine ⟨e.1, List.any_eq_true.2 ⟨e, he, beq_self_eq_true _⟩, ?_⟩
  rw [hs.stage_of_mem he]
  split at hfetch
  · rename_i h; exact h
  · cases hfetch

/-- A load that was requested and has not ended goes on, or another one that holds a worker. -/
theorem Sound.exists_load_work (hs : Sound s) (hrequested : s.stage id ≠ .unloaded)
    (hopen : (s.stage id).isResolved = false) :
    ∃ id', (s.step (.advanceLoad id')).loadsLeft < s.loadsLeft := by
  have hk : s.isKnown id = true := by
    by_contra hk
    exact hrequested (stage_eq_unloaded (by simpa using hk))
  by_cases hfree : s.stage id = .queued → s.fetchCount < max 1 s.setup.workers.toNat
  · exact ⟨id, loadsLeft_step_lt hk (loadStep_advanceLoad hk hrequested hopen hfree)⟩
  · obtain ⟨_, hbusy⟩ := Classical.not_imp.1 hfree
    obtain ⟨id', hk', hfetch⟩ := hs.exists_fetching hbusy
    refine ⟨id', loadsLeft_step_lt hk' (loadStep_advanceLoad hk' ?_ ?_ ?_)⟩
    · rw [hfetch]; nofun
    · rw [hfetch]; rfl
    · rw [hfetch]; nofun

/-- While a call is under way, something can go on. -/
theorem Consistent.exists_work (h : Consistent s) (hc : c ∈ s.calls) (hopen : c.response? = none) :
    ∃ a : Action, a.IsWork ∧ (s.step a).workLeft c.generation < s.workLeft c.generation := by
  have hcall : s.call? c.generation = some c := h.numbered.call?_eq_some.2 ⟨hc, rfl⟩
  have hadvance : s.step (.advanceCall c.generation) = s.advanceOf c := by
    rw [Session.step, advanceCall, hcall]
  rcases advanceOf_cases s c with ⟨_, ⟨hwait, id, hid, hr⟩ | ⟨r, hr⟩⟩ | ⟨phase, hstep, hcalls, _⟩
  · have hrequested : s.stage id ≠ .unloaded := by
      rcases h.calls c hc with ⟨_, hfin⟩ | ⟨_, _, hok⟩
      · rw [hwait] at hfin
        cases hfin
      · rw [hwait] at hok
        exact hok id hid
    obtain ⟨id', hlt⟩ := h.sound.exists_load_work hrequested hr
    have hsame : (s.step (.advanceLoad id')).call? c.generation = s.call? c.generation := by
      rw [call?, call?, Session.step, (sameCalls_advanceLoad s id').calls]
    refine ⟨.advanceLoad id', trivial, ?_⟩
    rw [workLeft, workLeft, hsame]
    omega
  · rw [Call.response?, hr] at hopen
    cases hopen
  · refine ⟨.advanceCall c.generation, trivial, ?_⟩
    have hnext : (s.step (.advanceCall c.generation)).call? c.generation =
        some { c with phase := phase } := by
      rw [(h.numbered.step _).call?_eq_some, hadvance, hcalls, h.numbered.mem_setPhase hc]
      exact ⟨.inl rfl, rfl⟩
    have hle := loadsLeft_step_le s (.advanceCall c.generation)
    have hlt := hstep.left_lt
    rw [workLeft, workLeft, hnext, hcall]
    simp only [Option.map_some, Option.getD_some]
    omega

/-! ### Overtaken calls -/

/-- Only a call that is not the newest any more is overtaken. -/
def OvertakenLate (s : Session) : Prop :=
  ∀ c ∈ s.calls, ∀ r, c.phase = .finished r → r.superseded = true → c.generation < s.generation

theorem overtakenLate_start (setup : Setup) : OvertakenLate (start setup) := nofun

theorem CallStep.overtaken_lt (h : CallStep s c phase) (hle : c.generation ≤ s.generation)
    {r : Response} (hr : phase = .finished r) (hs : r.superseded = true) :
    c.generation < s.generation := by
  cases h with
  | overtaken _ hg => omega
  | late _ _ _ hg => omega
  | commit =>
    obtain rfl := Phase.finished.inj hr
    cases hs
  | _ => cases hr

theorem OvertakenLate.step (h : OvertakenLate s) (hn : Numbered s) (a : Action) :
    OvertakenLate (s.step a) := by
  have hgrows := generation_step s a
  refine forall_calls_step hn h (fun c _ hc r hr hs => ?_) ?_ (fun _ _ => nofun)
    fun c hc phase _ hstep _ r hr hs => ?_
  · have := hc r hr hs
    omega
  · rintro _ ⟨⟩ hs
    cases hs
  · have : c.generation < s.generation := hstep.overtaken_lt (hn.le_generation hc).2 hr hs
    show c.generation < (s.step a).generation
    omega

theorem OvertakenLate.run (h : OvertakenLate s) (hn : Numbered s) (actions : List Action) :
    OvertakenLate (s.run actions) := by
  have hrun : OvertakenLate (s.run actions) ∧ Numbered (s.run actions) :=
    run_induction (P := fun t => OvertakenLate t ∧ Numbered t) ⟨h, hn⟩
      fun _ ht a _ => ⟨ht.1.step ht.2 a, ht.2.step a⟩
  exact hrun.1

/-- The newest call has an answer of its own. -/
theorem OvertakenLate.current (h : OvertakenLate s) (hn : Numbered s) {r : Response}
    (hr : s.answered s.generation = some r) : r.superseded = false := by
  obtain ⟨c, hc, hresponse⟩ := Option.bind_eq_some_iff.1 hr
  obtain ⟨hmem, hgen⟩ := hn.call?_eq_some.1 hc
  cases hs : r.superseded with
  | false => rfl
  | true =>
    have := h c hmem r (finished_of_response? hresponse) hs
    omega

theorem generation_run_of_isWork {actions : List Action} (h : ∀ a ∈ actions, a.IsWork) :
    (s.run actions).generation = s.generation := by
  have hnone : texts actions = [] := by
    rw [texts, List.filterMap_eq_nil_iff]
    intro a ha
    cases a with
    | begin text => cases h _ ha
    | _ => rfl
  rw [generation_run, hnone]
  rfl

/-! ### Answers -/

/-- A call that is under way can be carried to its answer. -/
theorem Consistent.exists_answer (h : Consistent s) (hp : Placed s.setup)
    (hn : s.manifest.shardIds.Nodup) (hc : c ∈ s.calls) :
    ∃ more : List Action, (∀ a ∈ more, a.IsWork) ∧
      ∃ r, (s.run more).answered c.generation = some r := by
  generalize hleft : s.workLeft c.generation = left
  induction left using Nat.strongRecOn generalizing s c with
  | ind left ih =>
    have hcall : s.call? c.generation = some c := h.numbered.call?_eq_some.2 ⟨hc, rfl⟩
    cases hr : c.response? with
    | some r =>
      refine ⟨[], nofun, r, ?_⟩
      show (s.call? c.generation).bind Call.response? = some r
      rw [hcall, Option.bind_some, hr]
    | none =>
      obtain ⟨a, ha, hlt⟩ := h.exists_work hc hr
      obtain ⟨d, hd, hcd⟩ := exists_call_step h.numbered hc a
      have hp' : Placed (s.step a).setup := by rwa [setup_step]
      have hn' : (s.step a).manifest.shardIds.Nodup := by rwa [manifest, setup_step]
      rw [hleft, ← hcd.generation] at hlt
      obtain ⟨more, hmore, r, hans⟩ := ih _ hlt (h.step hp hn a) hp' hn' hd rfl
      rw [hcd.generation] at hans
      exact ⟨a :: more, List.forall_mem_cons.2 ⟨ha, hmore⟩, r, hans⟩

end SymbolIndex.Session
