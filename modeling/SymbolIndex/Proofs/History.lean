import Mathlib.Data.List.Induction

/-!
# Histories

A run folds a step over a list of actions, and its history is that list. `Happens P actions` says
that one of the actions came when `P` held of those before it and of the action itself; `log` is
what the actions gave out, each in the state in which it came. Both are computed at the end of the
history, where it grows (`happens_concat`, `log_concat`), so that what holds of every history is
proved along it (`run_induction_concat`).
-/

namespace SymbolIndex.History

variable {σ α β : Type} {step : σ → α → σ} {out : σ → α → List β} {P : List α → α → Prop}
  {actions : List α} {a : α}

/-- What holds at the start and is kept by each further action holds after every history. -/
theorem run_induction_concat {s : σ} {I : List α → σ → Prop} (hstart : I [] s)
    (hstep : ∀ actions a, I actions (actions.foldl step s) →
      I (actions ++ [a]) (step (actions.foldl step s) a)) (actions : List α) :
    I actions (actions.foldl step s) := by
  induction actions using List.reverseRecOn with
  | nil => exact hstart
  | append_singleton actions a ih =>
    rw [List.foldl_append]
    exact hstep actions a ih

/-! ### What happened -/

/-- One of the actions came when `P` held of the actions before it and of itself. -/
def Happens (P : List α → α → Prop) (actions : List α) : Prop :=
  ∃ before a after, actions = before ++ a :: after ∧ P before a

theorem not_happens_nil : ¬ Happens P [] := by
  rintro ⟨before, a, after, h, _⟩
  simp at h

theorem happens_concat : Happens P (actions ++ [a]) ↔ Happens P actions ∨ P actions a := by
  constructor
  · rintro ⟨before, b, after, h, hp⟩
    rcases List.eq_nil_or_concat after with rfl | ⟨after, c, rfl⟩
    · obtain ⟨rfl, rfl⟩ := List.append_singleton_inj.1 h
      exact .inr hp
    · rw [List.concat_eq_append, ← List.cons_append, ← List.append_assoc] at h
      exact .inl ⟨before, b, after, (List.append_singleton_inj.1 h).1, hp⟩
  · rintro (⟨before, b, after, rfl, hp⟩ | hp)
    · exact ⟨before, b, after ++ [a], by simp, hp⟩
    · exact ⟨actions, a, [], rfl, hp⟩

theorem Happens.concat (h : Happens P actions) : Happens P (actions ++ [a]) :=
  happens_concat.2 (.inl h)

/-! ### What was given out -/

/-- What the actions of a run give out, in order. -/
def log (step : σ → α → σ) (out : σ → α → List β) (s : σ) : List α → List β
  | [] => []
  | a :: rest => out s a ++ log step out (step s a) rest

theorem log_concat (s : σ) (actions : List α) (a : α) :
    log step out s (actions ++ [a]) =
      log step out s actions ++ out (actions.foldl step s) a := by
  induction actions generalizing s with
  | nil => simp [log]
  | cons b rest ih => rw [List.cons_append, log, log, ih, List.append_assoc, List.foldl_cons]

/-- Things are put on a pile and taken off it. Those taken and those still there, in order, are
those that were there and those put. -/
theorem log_append_pile {pile : σ → List β} {put : σ → α → List β}
    (h : ∀ s a, out s a ++ pile (step s a) = pile s ++ put s a) (s : σ) (actions : List α) :
    log step out s actions ++ pile (actions.foldl step s) = pile s ++ log step put s actions := by
  induction actions generalizing s with
  | nil => simp [log]
  | cons a rest ih =>
    rw [log, log, List.foldl_cons, List.append_assoc, ih, ← List.append_assoc, h,
      List.append_assoc]

end SymbolIndex.History
