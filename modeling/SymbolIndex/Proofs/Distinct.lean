import Mathlib.Data.List.Basic

/-!
# Lists without repetition

Looking up a name that no two members share, and what is left when repetitions are erased.
-/

namespace SymbolIndex

/-- Where no name occurs twice, looking up the name of a member finds the member. -/
theorem find?_of_nodup {α β : Type} [BEq β] [LawfulBEq β] {f : α → β} {l : List α}
    (hn : (l.map f).Nodup) {a : α} (ha : a ∈ l) : (l.find? fun b => f b == f a) = some a := by
  induction l with
  | nil => cases ha
  | cons b rest ih =>
    rw [List.map_cons, List.nodup_cons] at hn
    rcases List.mem_cons.1 ha with rfl | ha
    · simp
    · have hne : ¬ (f b == f a) = true := by
        rw [beq_iff_eq]
        intro heq
        exact hn.1 (heq ▸ List.mem_map_of_mem ha)
      rw [List.find?_cons_of_neg (p := fun c => f c == f a) hne]
      exact ih hn.2 ha

theorem nodup_eraseDups {α : Type} [BEq α] [LawfulBEq α] (l : List α) : l.eraseDups.Nodup := by
  generalize hn : l.length = n
  induction n using Nat.strongRecOn generalizing l with
  | ind n ih =>
    cases l with
    | nil => simp
    | cons a l =>
      rw [List.eraseDups_cons, List.nodup_cons]
      refine ⟨by simp, ih _ ?_ _ rfl⟩
      have := List.length_filter_le (fun b => !b == a) l
      simp only [List.length_cons] at hn
      omega

end SymbolIndex
