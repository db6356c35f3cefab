import SymbolIndex.Proofs.Except
import SymbolIndex.World

/-!
# Effects that succeed or fail

What the success or the failure of a sequence of effects says about its parts. The state after an
effect is the second part of its outcome; `Always` is about that state alone, however the effect
ends.
-/

namespace SymbolIndex.Effect

variable {ε σ α β : Type} {s t : σ}

def outcome (x : ExceptT ε (StateM σ) α) (s : σ) : Except ε α × σ := x.run s

/-- An effect gives a value and leaves a state. -/
def Gives (x : ExceptT ε (StateM σ) α) (s : σ) (a : α) (t : σ) : Prop :=
  outcome x s = (.ok a, t)

theorem Gives.unique {x : ExceptT ε (StateM σ) α} {a b : α} {u : σ} (h : Gives x s a t)
    (h' : Gives x s b u) : a = b ∧ t = u := by
  have heq := Prod.mk.inj (h.symm.trans h')
  exact ⟨Except.ok.inj heq.1, heq.2⟩

theorem exists_gives_of_isOk {x : ExceptT ε (StateM σ) α} (h : (outcome x s).1.isOk = true) :
    ∃ a, Gives x s a (outcome x s).2 := by
  unfold Gives
  revert h
  rcases outcome x s with ⟨_ | a, t⟩
  · nofun
  · exact fun _ => ⟨a, rfl⟩

theorem outcome_bind (x : ExceptT ε (StateM σ) α) (f : α → ExceptT ε (StateM σ) β) (s : σ) :
    outcome (x >>= f) s = match outcome x s with
      | (.ok a, u) => outcome (f a) u
      | (.error e, u) => (.error e, u) := by
  show (match outcome x s with | (r, u) => (ExceptT.bindCont f r).run u) = _
  rcases outcome x s with ⟨_ | _, u⟩ <;> rfl

theorem gives_bind {x : ExceptT ε (StateM σ) α} {f : α → ExceptT ε (StateM σ) β} {b : β} :
    Gives (x >>= f) s b t ↔ ∃ a u, Gives x s a u ∧ Gives (f a) u b t := by
  unfold Gives
  rw [outcome_bind]
  rcases outcome x s with ⟨e | a, u⟩
  · simp
  · simp only [Prod.mk.injEq, Except.ok.injEq]
    constructor
    · intro h
      exact ⟨a, u, ⟨rfl, rfl⟩, h⟩
    · rintro ⟨_, _, ⟨rfl, rfl⟩, h⟩
      exact h

theorem gives_pure {a b : α} :
    Gives (pure a : ExceptT ε (StateM σ) α) s b t ↔ a = b ∧ s = t := by
  show (Except.ok a, s) = (Except.ok b, t) ↔ _
  rw [Prod.mk.injEq, Except.ok.injEq]

theorem not_gives_throw {e : ε} {b : α} :
    ¬ Gives (throw e : ExceptT ε (StateM σ) α) s b t := by
  show ¬ (Except.error e, s) = (Except.ok b, t)
  intro h
  cases (Prod.mk.inj h).1

/-- An effect behind a guard. -/
theorem gives_unless {c : Bool} {e : ε} {f : PUnit → ExceptT ε (StateM σ) α} {a : α} :
    Gives (if c = true then (do let r ← throw e; f r) else f ⟨⟩) s a t ↔
      c = false ∧ Gives (f ⟨⟩) s a t := by
  cases c with
  | true =>
    rw [if_pos rfl, gives_bind]
    constructor
    · rintro ⟨_, _, h, _⟩
      exact absurd h not_gives_throw
    · rintro ⟨h, _⟩
      cases h
  | false => simp

theorem gives_get {b : σ} : Gives (get : ExceptT ε (StateM σ) σ) s b t ↔ s = b ∧ s = t := by
  show (Except.ok s, s) = (Except.ok b, t) ↔ _
  rw [Prod.mk.injEq, Except.ok.injEq]

theorem gives_modify {f : σ → σ} {b : PUnit} :
    Gives (modify f : ExceptT ε (StateM σ) PUnit) s b t ↔ f s = t := by
  show (Except.ok ⟨⟩, f s) = (Except.ok b, t) ↔ _
  rw [Prod.mk.injEq]
  exact and_iff_right rfl

theorem gives_forM_nil {f : α → ExceptT ε (StateM σ) PUnit} {b : PUnit} :
    Gives (([] : List α).forM f) s b t ↔ s = t := by
  show Gives (pure ⟨⟩) s b t ↔ _
  rw [gives_pure]
  exact and_iff_right rfl

theorem gives_forM_cons {a : α} {l : List α} {f : α → ExceptT ε (StateM σ) PUnit} {b : PUnit} :
    Gives ((a :: l).forM f) s b t ↔ ∃ u, Gives (f a) s ⟨⟩ u ∧ Gives (l.forM f) u ⟨⟩ t := by
  show Gives (f a >>= fun _ => l.forM f) s b t ↔ _
  rw [gives_bind]
  exact ⟨fun ⟨_, u, h⟩ => ⟨u, h⟩, fun ⟨u, h⟩ => ⟨⟨⟩, u, h⟩⟩

theorem gives_adapt {ε' : Type} {f : ε → ε'} {x : ExceptT ε (StateM σ) α} {a : α} :
    Gives (x.adapt f) s a t ↔ Gives x s a t := by
  have h : outcome (x.adapt f) s = ((outcome x s).1.mapError f, (outcome x s).2) := rfl
  unfold Gives
  rw [h, Prod.mk.injEq, mapError_eq_ok, Prod.ext_iff]

/-! ### Failures -/

/-- An effect fails with an error and leaves a state. -/
def Fails (x : ExceptT ε (StateM σ) α) (s : σ) (e : ε) (t : σ) : Prop :=
  outcome x s = (.error e, t)

variable {e : ε}

theorem exists_fails_of_isOk {x : ExceptT ε (StateM σ) α} (h : (outcome x s).1.isOk = false) :
    ∃ e, Fails x s e (outcome x s).2 := by
  unfold Fails
  revert h
  rcases outcome x s with ⟨e | a, t⟩
  · exact fun _ => ⟨e, rfl⟩
  · nofun

theorem fails_bind {x : ExceptT ε (StateM σ) α} {f : α → ExceptT ε (StateM σ) β} :
    Fails (x >>= f) s e t ↔ Fails x s e t ∨ ∃ a u, Gives x s a u ∧ Fails (f a) u e t := by
  unfold Fails Gives
  rw [outcome_bind]
  rcases outcome x s with ⟨e' | a, u⟩
  · simp
  · simp only [Prod.mk.injEq, reduceCtorEq, false_and, false_or, Except.ok.injEq]
    constructor
    · intro h
      exact ⟨a, u, ⟨rfl, rfl⟩, h⟩
    · rintro ⟨_, _, ⟨rfl, rfl⟩, h⟩
      exact h

theorem not_fails_pure {a : α} : ¬ Fails (pure a : ExceptT ε (StateM σ) α) s e t := by
  show ¬ (Except.ok a, s) = (Except.error e, t)
  intro h
  cases (Prod.mk.inj h).1

theorem fails_throw {e' : ε} :
    Fails (throw e' : ExceptT ε (StateM σ) α) s e t ↔ e' = e ∧ s = t := by
  show (Except.error e', s) = (Except.error e, t) ↔ _
  rw [Prod.mk.injEq, Except.error.injEq]

theorem not_fails_modify {f : σ → σ} :
    ¬ Fails (modify f : ExceptT ε (StateM σ) PUnit) s e t := by
  show ¬ ((Except.ok PUnit.unit : Except ε PUnit), f s) = (Except.error e, t)
  intro h
  cases (Prod.mk.inj h).1

theorem fails_unless {c : Bool} {e' : ε} {f : PUnit → ExceptT ε (StateM σ) α} :
    Fails (if c = true then (do let r ← throw e'; f r) else f ⟨⟩) s e t ↔
      c = true ∧ e' = e ∧ s = t ∨ c = false ∧ Fails (f ⟨⟩) s e t := by
  cases c with
  | true =>
    rw [if_pos rfl, fails_bind, fails_throw]
    constructor
    · rintro (h | ⟨_, _, h, _⟩)
      · exact .inl ⟨rfl, h⟩
      · exact absurd h not_gives_throw
    · rintro (⟨_, h⟩ | ⟨h, _⟩)
      · exact .inl h
      · cases h
  | false => simp

theorem fails_adapt {ε' : Type} {f : ε → ε'} {x : ExceptT ε (StateM σ) α} {e' : ε'} :
    Fails (x.adapt f) s e' t ↔ ∃ e, Fails x s e t ∧ f e = e' := by
  have h : outcome (x.adapt f) s = ((outcome x s).1.mapError f, (outcome x s).2) := rfl
  unfold Fails
  rw [h, Prod.mk.injEq, mapError_eq_error]
  constructor
  · rintro ⟨⟨e, hx, hf⟩, ht⟩
    exact ⟨e, Prod.ext hx ht, hf⟩
  · rintro ⟨e, hx, hf⟩
    rw [hx]
    exact ⟨⟨e, rfl, hf⟩, rfl⟩

theorem fails_forM_cons {a : α} {l : List α} {f : α → ExceptT ε (StateM σ) PUnit} :
    Fails ((a :: l).forM f) s e t ↔
      Fails (f a) s e t ∨ ∃ u, Gives (f a) s ⟨⟩ u ∧ Fails (l.forM f) u e t := by
  show Fails (f a >>= fun _ => l.forM f) s e t ↔ _
  rw [fails_bind]
  exact or_congr_right ⟨fun ⟨_, u, h⟩ => ⟨u, h⟩, fun ⟨u, h⟩ => ⟨⟨⟩, u, h⟩⟩

/-- A loop that fails was done up to some item and failed there. -/
theorem exists_of_fails_forM {l : List α} {f : α → ExceptT ε (StateM σ) PUnit}
    (h : Fails (l.forM f) s e t) :
    ∃ before a after u, l = before ++ a :: after ∧ Gives (before.forM f) s ⟨⟩ u ∧
      Fails (f a) u e t := by
  induction l generalizing s with
  | nil => exact absurd h not_fails_pure
  | cons a l ih =>
    rcases fails_forM_cons.1 h with h | ⟨u, ha, h⟩
    · exact ⟨[], a, l, s, rfl, gives_forM_nil.2 rfl, h⟩
    · obtain ⟨before, b, after, v, rfl, hbefore, hb⟩ := ih h
      exact ⟨a :: before, b, after, v, rfl, gives_forM_cons.2 ⟨u, ha, hbefore⟩, hb⟩

theorem not_fails_of_gives {x : ExceptT ε (StateM σ) α} {a : α} {u : σ} (h : Gives x s a u) :
    ¬ Fails x s e t := by
  intro hfails
  cases (Prod.mk.inj (h.symm.trans hfails)).1

/-- What follows a step that succeeds is where a sequence fails. -/
theorem fails_bind_of_gives {x : ExceptT ε (StateM σ) α} {f : α → ExceptT ε (StateM σ) β} {a : α}
    {u : σ} (h : Gives x s a u) : Fails (x >>= f) s e t ↔ Fails (f a) u e t := by
  rw [fails_bind, or_iff_right (not_fails_of_gives h)]
  constructor
  · rintro ⟨b, v, hb, hrest⟩
    obtain ⟨rfl, rfl⟩ := h.unique hb
    exact hrest
  · intro hrest
    exact ⟨a, u, h, hrest⟩

/-! ### However an effect ends -/

/-- An effect relates the states before and after it, whether it succeeds or fails. -/
def Always (R : σ → σ → Prop) (x : ExceptT ε (StateM σ) α) : Prop := ∀ s, R s (outcome x s).2

variable {R : σ → σ → Prop}

theorem Always.of_gives {x : ExceptT ε (StateM σ) α} {a : α} (h : Always R x)
    (hx : Gives x s a t) : R s t := by
  have hs := h s
  rwa [hx] at hs

theorem Always.of_fails {x : ExceptT ε (StateM σ) α} (h : Always R x) (hx : Fails x s e t) :
    R s t := by
  have hs := h s
  rwa [hx] at hs

/-- A relation that effects keep when one follows the other. -/
structure Chains (R : σ → σ → Prop) : Prop where
  refl : ∀ s, R s s
  trans : ∀ s t u, R s t → R t u → R s u

theorem Chains.pure (h : Chains R) (a : α) : Always R (pure a : ExceptT ε (StateM σ) α) := h.refl

theorem Chains.throw (h : Chains R) (e : ε) : Always R (throw e : ExceptT ε (StateM σ) α) := h.refl

theorem Chains.get (h : Chains R) : Always R (get : ExceptT ε (StateM σ) σ) := h.refl

theorem Chains.bind (h : Chains R) {x : ExceptT ε (StateM σ) α}
    {f : α → ExceptT ε (StateM σ) β} (hx : Always R x) (hf : ∀ a, Always R (f a)) :
    Always R (x >>= f) := by
  intro s
  have hs := hx s
  rw [outcome_bind]
  revert hs
  rcases outcome x s with ⟨_ | a, u⟩ <;> intro hs
  · exact hs
  · exact h.trans _ _ _ hs (hf a u)

theorem Always.adapt {ε' : Type} {f : ε → ε'} {x : ExceptT ε (StateM σ) α} (h : Always R x) :
    Always R (x.adapt f) := h

end SymbolIndex.Effect
