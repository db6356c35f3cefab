import Mathlib.Data.List.Nodup
import SymbolIndex.Proofs.Distinct
import SymbolIndex.Proofs.Session.Frame

/-!
# Steps of calls

Calls are numbered in the order in which they begin (`Numbered`), so a step of a call is a step of
that call alone: it changes its phase (`CallStep`), and nothing else about any call.
-/

namespace SymbolIndex.Session

variable {s t : Session} {c d : Call} {phase : Phase} {generation : Nat}

/-! ### Numbers -/

/-- The calls have the numbers 1, 2, … in the order in which they began. -/
def Numbered (s : Session) : Prop :=
  s.calls.map (·.generation) = List.range' 1 s.calls.length

theorem numbered_start (setup : Setup) : Numbered (start setup) := rfl

theorem Numbered.nodup (hn : Numbered s) : (s.calls.map (·.generation)).Nodup := by
  rw [hn]
  exact List.nodup_range'

theorem Numbered.eq_of_generation (hn : Numbered s) (hc : c ∈ s.calls) (hd : d ∈ s.calls)
    (h : c.generation = d.generation) : c = d :=
  List.inj_on_of_nodup_map hn.nodup hc hd h

theorem Numbered.le_generation (hn : Numbered s) (hc : c ∈ s.calls) :
    1 ≤ c.generation ∧ c.generation ≤ s.generation := by
  have hmem : c.generation ∈ s.calls.map (·.generation) := List.mem_map_of_mem hc
  rw [hn, List.mem_range'_1] at hmem
  rw [Session.generation]
  omega

theorem Numbered.call?_eq_some (hn : Numbered s) :
    s.call? generation = some c ↔ c ∈ s.calls ∧ c.generation = generation := by
  constructor
  · intro h
    exact ⟨List.mem_of_find?_eq_some h, by simpa using List.find?_some h⟩
  · rintro ⟨hc, rfl⟩
    exact find?_of_nodup hn.nodup hc

/-! ### Phases -/

/-- Apart from its phase, nothing of a call changes. -/
theorem map_setPhase {β : Type} (f : Call → β) (h : ∀ c phase, f { c with phase := phase } = f c)
    (s : Session) (generation : Nat) (phase : Phase) :
    (s.setPhase generation phase).calls.map f = s.calls.map f := by
  rw [setPhase, List.map_map]
  apply List.map_congr_left
  intro c _
  simp only [Function.comp]
  split
  · exact h c phase
  · rfl

theorem Numbered.mem_setPhase (hn : Numbered s) (hc : c ∈ s.calls) :
    d ∈ (s.setPhase c.generation phase).calls ↔
      d = { c with phase := phase } ∨ d ∈ s.calls ∧ d.generation ≠ c.generation := by
  rw [setPhase, List.mem_map]
  constructor
  · rintro ⟨e, he, rfl⟩
    by_cases hg : e.generation = c.generation
    · left
      rw [hn.eq_of_generation he hc hg]
      simp
    · right
      simp [hg, he]
  · rintro (rfl | ⟨hd, hg⟩)
    · exact ⟨c, hc, by simp⟩
    · exact ⟨d, hd, by simp [hg]⟩

/-- The steps of a call, with the phase each leads to. -/
inductive CallStep (s : Session) (c : Call) : Phase → Prop where
  | request (id : String) (left : List String) (h : c.phase = .requesting (id :: left)) :
    CallStep s c (.requesting left)
  | await (h : c.phase = .requesting []) : CallStep s c .waiting
  | wake (h : c.phase = .waiting) (hr : ∀ id ∈ c.targets, (s.stage id).isResolved = true)
    (hg : c.generation = s.generation) : CallStep s c .current
  | overtaken (h : c.phase = .waiting) (hg : c.generation ≠ s.generation) :
    CallStep s c (.finished (.outdated c.query c.generation))
  | read (h : c.phase = .current) : CallStep s c (.reading s.last (s.warnings c.targets))
  | scan (last : Option Snapshot) (warnings : List Warning) (h : c.phase = .reading last warnings) :
    CallStep s c (.matched (s.matchesFor last c) warnings)
  | commit (snapshot : Snapshot) (warnings : List Warning)
    (h : c.phase = .matched snapshot warnings) (hg : c.generation = s.generation) :
    CallStep s c (.finished (s.respond c snapshot warnings))
  | late (snapshot : Snapshot) (warnings : List Warning)
    (h : c.phase = .matched snapshot warnings) (hg : c.generation ≠ s.generation) :
    CallStep s c (.finished (.outdated c.query c.generation))

/-- What is remembered after a step of a call: it commits, or the same as before. -/
def LastAfter (s : Session) (c : Call) (last : Option Snapshot) : Prop :=
  last = s.last ∨ ∃ snapshot warnings, c.phase = .matched snapshot warnings ∧
    c.generation = s.generation ∧ last = some snapshot

/-- A call that cannot go on: it waits for a load, or it has finished. -/
def Idle (s : Session) (c : Call) : Prop :=
  (c.phase = .waiting ∧ ∃ id ∈ c.targets, (s.stage id).isResolved = false) ∨
    ∃ r, c.phase = .finished r

theorem calls_setPhase_request (s : Session) (id : String) (generation : Nat) (phase : Phase) :
    ((s.request id).setPhase generation phase).calls = (s.setPhase generation phase).calls := by
  rw [setPhase, setPhase, (sameCalls_request s id).calls]

/-- What the next step of a call is. -/
theorem advanceOf_cases (s : Session) (c : Call) :
    (s.advanceOf c = s ∧ Idle s c) ∨ ∃ phase, CallStep s c phase ∧
      (s.advanceOf c).calls = (s.setPhase c.generation phase).calls ∧
      LastAfter s c (s.advanceOf c).last := by
  unfold advanceOf
  split
  · rename_i h
    exact .inr ⟨_, .await h, rfl, .inl rfl⟩
  · rename_i id left h
    exact .inr ⟨_, .request id left h, calls_setPhase_request s id _ _,
      .inl (sameCalls_request s id).last⟩
  · rename_i h
    split
    · rename_i hr
      split
      · rename_i hg
        exact .inr ⟨_, .wake h (List.all_eq_true.1 hr) hg, rfl, .inl rfl⟩
      · rename_i hg
        exact .inr ⟨_, .overtaken h hg, rfl, .inl rfl⟩
    · rename_i hr
      rw [List.all_eq_true] at hr
      push Not at hr
      exact .inl ⟨rfl, .inl ⟨h, by simpa using hr⟩⟩
  · rename_i h
    exact .inr ⟨_, .read h, rfl, .inl rfl⟩
  · rename_i last warnings h
    exact .inr ⟨_, .scan last warnings h, rfl, .inl rfl⟩
  · rename_i snapshot warnings h
    split
    · rename_i hg
      exact .inr ⟨_, .commit snapshot warnings h hg, rfl, .inr ⟨snapshot, warnings, h, hg, rfl⟩⟩
    · rename_i hg
      exact .inr ⟨_, .late snapshot warnings h hg, rfl, .inl rfl⟩
  · rename_i r h
    exact .inl ⟨rfl, .inr ⟨r, h⟩⟩

/-! ### Runs -/

theorem Numbered.step (hn : Numbered s) (a : Action) : Numbered (s.step a) := by
  unfold Numbered at *
  rcases step_calls s a with h | ⟨text, _, h⟩ | ⟨c, _, _, h⟩
  · rw [h.calls, hn]
  · rw [h, begin]
    simp only [List.map_append, List.length_append, List.map_cons, List.map_nil, hn]
    rw [List.length_singleton, List.range'_1_concat]
    have hnew : ∀ c : Call, c.generation = s.generation + 1 →
        List.range' 1 s.calls.length ++ [c.generation] =
          List.range' 1 s.calls.length ++ [1 + s.calls.length] := by
      intro c hc
      rw [hc, Session.generation, Nat.add_comm]
    apply hnew _
    split <;> rfl
  · rw [h]
    rcases advanceOf_cases s c with ⟨he, _⟩ | ⟨phase, _, hcalls, _⟩
    · rw [he, hn]
    · have hlen := congrArg List.length hcalls
      rw [hcalls, map_setPhase _ fun _ _ => rfl, hn, setPhase, List.length_map]

theorem Numbered.run (hn : Numbered s) (actions : List Action) : Numbered (s.run actions) :=
  run_induction hn fun _ ht a _ => ht.step a

/-- `d` is the call `c` at a later time: it is as it was once it has finished. -/
structure SameCall (c d : Call) : Prop where
  generation : d.generation = c.generation
  query : d.query = c.query
  targets : d.targets = c.targets
  finished : ∀ r, c.phase = .finished r → d.phase = .finished r

theorem SameCall.refl (c : Call) : SameCall c c := ⟨rfl, rfl, rfl, fun _ h => h⟩

theorem SameCall.trans {e : Call} (h₁ : SameCall c d) (h₂ : SameCall d e) : SameCall c e where
  generation := h₂.generation.trans h₁.generation
  query := h₂.query.trans h₁.query
  targets := h₂.targets.trans h₁.targets
  finished r h := h₂.finished r (h₁.finished r h)

theorem CallStep.not_finished (h : CallStep s c phase) (r : Response) : c.phase ≠ .finished r := by
  intro hc
  cases h <;> simp_all

/-- A call is never lost. -/
theorem exists_call_step (hn : Numbered s) (hc : c ∈ s.calls) (a : Action) :
    ∃ d ∈ (s.step a).calls, SameCall c d := by
  rcases step_calls s a with h | ⟨text, _, h⟩ | ⟨e, he, _, h⟩
  · exact ⟨c, h.calls ▸ hc, .refl c⟩
  · rw [h]
    exact ⟨c, List.mem_append_left _ hc, .refl c⟩
  · rw [h]
    have he := (hn.call?_eq_some.1 he).1
    rcases advanceOf_cases s e with ⟨heq, _⟩ | ⟨phase, hstep, hcalls, _⟩
    · exact ⟨c, heq.symm ▸ hc, .refl c⟩
    · rw [hcalls]
      by_cases hg : c.generation = e.generation
      · obtain rfl := hn.eq_of_generation hc he hg
        exact ⟨_, (hn.mem_setPhase hc).2 (.inl rfl), rfl, rfl, rfl,
          fun r h => absurd h (hstep.not_finished r)⟩
      · exact ⟨c, (hn.mem_setPhase he).2 (.inr ⟨hc, hg⟩), .refl c⟩

theorem exists_call_run (hn : Numbered s) (hc : c ∈ s.calls) (actions : List Action) :
    ∃ d ∈ (s.run actions).calls, SameCall c d := by
  have hrun : Numbered (s.run actions) ∧ ∃ d ∈ (s.run actions).calls, SameCall c d := by
    refine run_induction (P := fun t => Numbered t ∧ ∃ d ∈ t.calls, SameCall c d)
      ⟨hn, c, hc, .refl c⟩ ?_
    rintro t ⟨ht, d, hd, hcd⟩ a _
    obtain ⟨e, he, hde⟩ := exists_call_step ht hd a
    exact ⟨ht.step a, e, he, hcd.trans hde⟩
  exact hrun.2

end SymbolIndex.Session
