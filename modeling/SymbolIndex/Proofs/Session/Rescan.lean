import SymbolIndex.Proofs.Session.Answers

/-!
# Sessions that always scan

A session that remembers no completed call scans its targets for every call (`runScanning`). It
goes through the same states as a session that remembers, up to what is remembered (`erase`), so
what a session remembers never changes an answer.
-/

namespace SymbolIndex.Session

variable {s : Session} {c : Call} {phase : Phase}

def forget (s : Session) : Session := { s with last := none }

/-- A run of a session that remembers no call, so that each call scans its targets. -/
def runScanning (s : Session) (actions : List Action) : Session :=
  actions.foldl (fun s a => (s.step a).forget) s

/-! ### Without what is remembered -/

/-- A phase as it is when nothing is remembered and the targets were scanned. -/
def erasePhase (targets : List String) : Phase → Phase
  | .reading _ warnings => .reading none warnings
  | .matched snapshot warnings =>
    .matched ⟨snapshot.query, targets, snapshot.matched⟩ warnings
  | phase => phase

def eraseCall (c : Call) : Call := { c with phase := erasePhase c.targets c.phase }

def erase (s : Session) : Session := { s with last := none, calls := s.calls.map eraseCall }

theorem erase_start (setup : Setup) : (start setup).erase = start setup := rfl

theorem call?_erase (s : Session) (generation : Nat) :
    s.erase.call? generation = (s.call? generation).map eraseCall := by
  rw [call?, erase, List.find?_map]
  rfl

theorem response?_eraseCall (c : Call) : (eraseCall c).response? = c.response? := by
  unfold Call.response? eraseCall erasePhase
  cases c.phase <;> rfl

theorem answered_erase (s : Session) (generation : Nat) :
    s.erase.answered generation = s.answered generation := by
  rw [answered, answered, call?_erase]
  cases s.call? generation with
  | none => rfl
  | some c => exact response?_eraseCall c

theorem generation_erase (s : Session) : s.erase.generation = s.generation := List.length_map _

theorem erase_request (s : Session) (id : String) :
    (s.request id).erase = (s.erase.request id).forget := by
  have hstage : s.erase.stage id = s.stage id := rfl
  unfold request
  rw [hstage]
  split <;> rfl

theorem erase_advanceLoad (s : Session) (id : String) :
    (s.advanceLoad id).erase = (s.erase.advanceLoad id).forget := by
  have hstage : s.erase.stage id = s.stage id := rfl
  have hcount : s.erase.fetchCount = s.fetchCount := rfl
  have hsetup : s.erase.setup = s.setup := rfl
  unfold advanceLoad tell
  rw [hstage, hcount, hsetup]
  split
  all_goals first | rfl | (split <;> rfl)

/-- Of the phases of calls, the step of a call changes its own only. -/
theorem erase_setPhase (hn : Numbered s) (hc : c ∈ s.calls) {erased : Phase}
    (h : erasePhase c.targets phase = erased) :
    (s.setPhase c.generation phase).erase = s.erase.setPhase c.generation erased := by
  unfold setPhase erase
  simp only [List.map_map]
  congr 1
  apply List.map_congr_left
  intro d hd
  simp only [Function.comp]
  by_cases hg : d.generation = c.generation
  · obtain rfl := hn.eq_of_generation hd hc hg
    simp [eraseCall, h]
  · have hg' : (eraseCall d).generation ≠ c.generation := hg
    simp [hg, hg']

theorem erase_advanceOf (h : Consistent s) (hp : Placed s.setup)
    (hn : s.manifest.shardIds.Nodup) (hc : c ∈ s.calls) :
    (s.advanceOf c).erase = (s.erase.advanceOf (eraseCall c)).forget := by
  have hset : ∀ {phase erased : Phase}, erasePhase c.targets phase = erased →
      (s.setPhase c.generation phase).erase = s.erase.setPhase c.generation erased :=
    erase_setPhase h.numbered hc
  have hgen := generation_erase s
  obtain ⟨generation, query, targets, phase⟩ := c
  cases phase with
  | requesting left =>
    cases left with
    | nil => exact hset rfl
    | cons id left =>
      have hsame := sameCalls_request s id
      have hn' : Numbered (s.request id) := by
        rw [Numbered, hsame.calls]
        exact h.numbered
      have hleft : erasePhase targets (.requesting left) = .requesting left := rfl
      apply (erase_setPhase hn' (hsame.calls ▸ hc) hleft).trans
      rw [erase_request]
      rfl
  | waiting =>
    simp only [advanceOf, eraseCall, erasePhase, hgen]
    have hstage : ∀ id, s.erase.stage id = s.stage id := fun _ => rfl
    simp only [hstage]
    split
    · split <;> exact hset rfl
    · rfl
  | current => exact hset rfl
  | reading last warnings =>
    apply hset
    rcases h.calls _ hc with ⟨_, hfin⟩ | ⟨hq, htargets, hr, _, hl⟩
    · cases hfin
    · obtain ⟨_, hquery, hmatched⟩ := h.sound.matchesFor_spec hp hn hq htargets hr hl
      rw [erasePhase, hquery, hmatched]
      rfl
  | matched snapshot warnings =>
    simp only [advanceOf, eraseCall, erasePhase, hgen]
    split <;> exact hset rfl
  | finished r => rfl

theorem erase_step (h : Consistent s) (hp : Placed s.setup) (hn : s.manifest.shardIds.Nodup)
    (a : Action) : (s.step a).erase = (s.erase.step a).forget := by
  cases a with
  | begin text =>
    have htargets : s.erase.targets = s.targets := rfl
    rw [step, step, Session.begin, Session.begin, generation_erase, htargets]
    unfold erase forget
    simp only [List.map_append, List.map_cons, List.map_nil]
    split <;> rfl
  | advanceCall generation =>
    rw [step, step, advanceCall, advanceCall, call?_erase]
    cases hc : s.call? generation with
    | none => rfl
    | some c => exact erase_advanceOf h hp hn (h.numbered.call?_eq_some.1 hc).1
  | request id =>
    have hk : s.erase.isKnown id = s.isKnown id := rfl
    rw [step, step, hk]
    split
    · exact erase_request s id
    · rfl
  | advanceLoad id => exact erase_advanceLoad s id
  | drain => rfl
  | close => rfl

theorem erase_run (h : Consistent s) (hp : Placed s.setup) (hn : s.manifest.shardIds.Nodup)
    (actions : List Action) : (s.run actions).erase = s.erase.runScanning actions := by
  induction actions generalizing s with
  | nil => rfl
  | cons a rest ih =>
    have hnext := h.step hp hn a
    have hp' : Placed (s.step a).setup := by rwa [setup_step]
    have hn' : (s.step a).manifest.shardIds.Nodup := by rwa [manifest, setup_step]
    apply (ih hnext hp' hn').trans
    rw [erase_step h hp hn a]
    rfl

/-! ### Answers -/

/-- What is remembered of the last completed call is what a scan of its shards finds now, and no
answer is other than it would be in a session that always scans. -/
theorem remembered_changes_no_answer (setup : Setup)
    (hn : setup.source.manifest.shardIds.Nodup) (hp : Placed setup) (actions : List Action) :
    (∀ l, ((start setup).run actions).last = some l →
      (∀ id ∈ l.shardIds, ((start setup).run actions).state id = .ready ∨
        ((start setup).run actions).state id = .failed) ∧
      l.matched = Match.filter setup.mode l.query
        (((start setup).run actions).candidates l.shardIds)) ∧
    (∀ generation, ((start setup).run actions).answered generation =
      ((start setup).runScanning actions).answered generation) ∧
    ∀ generation r, ((start setup).run actions).answered generation = some r →
      r.superseded = false → r.query ≠ "" →
      r = ⟨r.query, Match.expand (Match.rank setup.mode r.query setup.limit
          (Match.filter setup.mode r.query (((start setup).run actions).candidates
            (((start setup).run actions).targets r.query)))),
        ((start setup).run actions).warnings (((start setup).run actions).targets r.query),
        false, generation⟩ := by
  have hstart := consistent_start setup
  have hrun : Consistent ((start setup).run actions) := hstart.run hp hn actions
  have hsetup : ((start setup).run actions).setup = setup := (later_run _ actions).setup
  refine ⟨fun l hl => ?_, fun generation => ?_, fun generation r hr hcurrent hq => ?_⟩
  · have hl := hrun.last l hl
    refine ⟨hl.state, ?_⟩
    rw [hl.matched, hsetup]
  · rw [← answered_erase, erase_run hstart hp hn actions, erase_start]
  · have := hrun.eq_of_answered hr hcurrent hq
    rwa [hsetup] at this

/-- Two shards, of which the first cannot be had. A query of one character looks at both, a longer
one at the second. -/
def narrowing : Setup where
  source :=
    { manifest := ⟨.hashed 2 (by decide), [⟨"h00", 1⟩, ⟨"h01", 1⟩]⟩
      fetch := fun id =>
        if id = "h01" then
          .ok ("\x7b\"entries\":[[\"print\",\"print\",[[\"io#print\",\"\"]]]]," ++
            "\"format\":\"docsearch-shard\",\"shard\":\"h01\",\"version\":1\x7d")
        else .error ⟨"FileNotFoundError", "no shard"⟩ }
  mode := .start
  limit := some 1
  workers := 1
  hasListener := false

/-- A query, and one that extends it once the first is answered. -/
def narrowingActions : List Action :=
  .begin "p" :: List.replicate 3 (.advanceCall 1) ++ List.replicate 8 (.advanceLoad "h00") ++
    List.replicate 8 (.advanceLoad "h01") ++ List.replicate 4 (.advanceCall 1) ++
    .begin "pr" :: List.replicate 7 (.advanceCall 2)

theorem load_narrowing {id : String} {shard : Shard} (h : load narrowing.source id = .ok shard) :
    id = "h01" ∧ shard.entries = [⟨"print", "print", [⟨"io#print", ""⟩]⟩] := by
  by_cases hid : id = "h01"
  · subst hid
    have hload : (load narrowing.source "h01").toOption =
        some ⟨"h01", [⟨"print", "print", [⟨"io#print", ""⟩]⟩]⟩ := by decide +kernel
    rw [h] at hload
    obtain rfl := Option.some.inj hload
    exact ⟨rfl, rfl⟩
  · obtain ⟨_, text, hfetch, _⟩ := load_eq_ok h
    unfold narrowing at hfetch
    simp only [if_neg hid] at hfetch
    cases hfetch

theorem placed_narrowing : Placed narrowing := by
  intro _ id _ shard h e he
  obtain ⟨rfl, hentries⟩ := load_narrowing h
  rw [hentries, List.mem_singleton] at he
  subst he
  have hof : narrowing.source.manifest.partition.idOf "print".toList = "h01" := by decide +kernel
  rw [Partition.shardOf, if_neg (by decide), hof]

/-- The second answer comes from the matches of the first, though one shard failed. -/
theorem remembered_changes_no_answer_narrowing :
    ((start narrowing).run narrowingActions).last =
      some ⟨"pr", ["h00", "h01"], [⟨⟨"print", "print", [⟨"io#print", ""⟩]⟩, "h01", (1, 0)⟩]⟩ ∧
    ∀ generation, ((start narrowing).run narrowingActions).answered generation =
      ((start narrowing).runScanning narrowingActions).answered generation :=
  ⟨by decide +kernel,
    (remembered_changes_no_answer narrowing (by decide) placed_narrowing narrowingActions).2.1⟩

end SymbolIndex.Session
