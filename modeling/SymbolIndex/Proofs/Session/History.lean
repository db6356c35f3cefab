import SymbolIndex.Proofs.History
import SymbolIndex.Proofs.Session.Calls

/-!
# Histories of sessions

What a session's history says of its calls: the texts that began them give their numbers and their
queries (`names_run`), and what holds of each call as it begins and is kept by its steps holds of
all calls (`forall_calls_step`).
-/

namespace SymbolIndex.Session

open History

variable {s t : Session} {c : Call} {a : Action}

/-- What holds at the start and is kept by each further action holds after every history. -/
theorem history_induction {I : List Action → Session → Prop} (hstart : I [] s)
    (hstep : ∀ actions a, I actions (s.run actions) → I (actions ++ [a]) ((s.run actions).step a))
    (actions : List Action) : I actions (s.run actions) :=
  run_induction_concat hstart hstep actions

theorem run_append (s : Session) (before after : List Action) :
    s.run (before ++ after) = (s.run before).run after :=
  List.foldl_append

theorem run_concat (s : Session) (actions : List Action) (a : Action) :
    s.run (actions ++ [a]) = (s.run actions).step a :=
  run_append s actions [a]

/-! ### Texts -/

def Action.text? : Action → Option String
  | .begin text => some text
  | _ => none

/-- The texts of the calls that begin, in order. -/
def texts (actions : List Action) : List String := actions.filterMap Action.text?

theorem texts_append (before after : List Action) :
    texts (before ++ after) = texts before ++ texts after :=
  List.filterMap_append

theorem texts_singleton (a : Action) : texts [a] = a.text?.toList := by
  cases h : a.text? <;> simp [texts, h]

theorem mem_texts {actions : List Action} {text : String} :
    text ∈ texts actions ↔ .begin text ∈ actions := by
  rw [texts, List.mem_filterMap]
  constructor
  · rintro ⟨a, ha, h⟩
    cases a <;> cases h
    exact ha
  · exact fun h => ⟨_, h, rfl⟩

/-! ### Numbers and queries -/

/-- The number of a call and its query, which do not change. -/
def Call.name (c : Call) : Nat × String := (c.generation, c.query)

theorem names_step (s : Session) (a : Action) :
    (s.step a).calls.map Call.name =
      s.calls.map Call.name ++
        (a.text?.map fun text => (s.generation + 1, Key.normalize text)).toList := by
  cases ha : a.text? with
  | some text =>
    obtain rfl : a = .begin text := by cases a <;> cases ha; rfl
    rw [step, begin, List.map_append]
    simp only [List.map_cons, List.map_nil]
    split <;> rfl
  | none =>
    rw [Option.map_none, Option.toList_none, List.append_nil]
    rcases step_calls s a with h | ⟨text, rfl, _⟩ | ⟨c, _, _, h⟩
    · rw [h.calls]
    · cases ha
    · rw [h]
      rcases advanceOf_cases s c with ⟨hidle, _⟩ | ⟨phase, _, hcalls, _⟩
      · rw [hidle]
      · rw [hcalls, map_setPhase Call.name fun _ _ => rfl]

theorem generation_step (s : Session) (a : Action) :
    (s.step a).generation = s.generation + (texts [a]).length := by
  have hlen := congrArg List.length (names_step s a)
  rw [texts_singleton]
  cases ha : a.text? <;> simp_all [generation]

theorem generation_run (s : Session) (actions : List Action) :
    (s.run actions).generation = s.generation + (texts actions).length := by
  refine history_induction
    (I := fun actions t => t.generation = s.generation + (texts actions).length) rfl ?_ actions
  intro actions a h
  rw [generation_step, h, texts_append, List.length_append, Nat.add_assoc]

theorem generation_start_run (setup : Setup) (actions : List Action) :
    ((start setup).run actions).generation = (texts actions).length := by
  rw [generation_run]
  exact Nat.zero_add _

/-- Calls have the numbers 1, 2, … in the order in which they begin, and the normal forms of their
texts as queries. -/
theorem names_run (setup : Setup) (actions : List Action) :
    ((start setup).run actions).calls.map Call.name =
      (texts actions).mapIdx fun i text => (i + 1, Key.normalize text) := by
  refine history_induction (I := fun actions t => t.calls.map Call.name =
    (texts actions).mapIdx fun i text => (i + 1, Key.normalize text)) rfl ?_ actions
  intro actions a h
  rw [names_step, h, generation_start_run, texts_append, texts_singleton]
  cases a.text? <;> simp

/-! ### Calls one by one -/

theorem numbered_run (setup : Setup) (actions : List Action) :
    Numbered ((start setup).run actions) :=
  (numbered_start setup).run actions

/-- A new call without key characters. -/
def blankCall (generation : Nat) : Call := ⟨generation, "", [], .finished (.blank generation)⟩

/-- A new call with key characters. -/
def newCall (s : Session) (query : String) : Call :=
  ⟨s.generation + 1, query, s.targets query, .requesting (s.targets query)⟩

/-- A call that begins stays in the session, with its number and its query. -/
theorem exists_begun_call (hn : Numbered s) {text : String} (hq : Key.normalize text ≠ "")
    (after : List Action) :
    ∃ c ∈ (s.run (.begin text :: after)).calls,
      c.generation = s.generation + 1 ∧ c.query = Key.normalize text := by
  have hbegun : ∃ c ∈ (s.step (.begin text)).calls,
      c.generation = s.generation + 1 ∧ c.query = Key.normalize text := by
    refine ⟨s.newCall (Key.normalize text), ?_, rfl, rfl⟩
    rw [step, begin, if_neg hq]
    exact List.mem_append_right _ (List.mem_singleton_self _)
  obtain ⟨c, hc, hgeneration, hquery⟩ := hbegun
  obtain ⟨d, hd, hcd⟩ := exists_call_run (hn.step (.begin text)) hc after
  exact ⟨d, hd, hcd.generation.trans hgeneration, hcd.query.trans hquery⟩

/-- After a step each call is one from before, as it was or a step further, or it is new. -/
theorem forall_calls_step {I J : Call → Prop} (hn : Numbered s) (h : ∀ c ∈ s.calls, I c)
    (hkept : ∀ c ∈ s.calls, I c → J c) (hblank : J (blankCall (s.generation + 1)))
    (hnew : ∀ query, query ≠ "" → J (s.newCall query))
    (hstep : ∀ c ∈ s.calls, ∀ phase, a = .advanceCall c.generation → CallStep s c phase → I c →
      J { c with phase := phase }) :
    ∀ c ∈ (s.step a).calls, J c := by
  rcases step_calls s a with hsame | ⟨text, _, hbegin⟩ | ⟨d, hd, ha, hadvance⟩
  · rw [hsame.calls]
    exact fun c hc => hkept c hc (h c hc)
  · rw [hbegin, begin]
    intro c hc
    rcases List.mem_append.1 hc with hc | hc
    · exact hkept c hc (h c hc)
    · rw [List.mem_singleton] at hc
      subst hc
      split
      · rename_i hblankQuery
        rw [hblankQuery]
        exact hblank
      · rename_i hquery
        exact hnew _ hquery
  · rw [hadvance]
    have hdmem := (hn.call?_eq_some.1 hd).1
    rcases advanceOf_cases s d with ⟨hidle, _⟩ | ⟨phase, hphase, hcalls, _⟩
    · rw [hidle]
      exact fun c hc => hkept c hc (h c hc)
    · rw [hcalls]
      intro c hc
      rcases (hn.mem_setPhase hdmem).1 hc with rfl | ⟨hc, _⟩
      · exact hstep d hdmem phase ha hphase (h d hdmem)
      · exact hkept c hc (h c hc)

end SymbolIndex.Session
