import Mathlib.Data.List.Basic
import Mathlib.Data.List.Induction
import SymbolIndex.Match.Selection

/-!
# Stable selection

A stable sort keeps the order of values that tie (`filter_mergeSort`), and nothing else than a
sorted list with these orders is its result (`eq_of_filter_tied`). So one value more goes behind
all that are not larger (`mergeSort_concat`), and a bounded pass ends with the first values of the
sorted list (`smallest_eq_take`).
-/

namespace SymbolIndex.Match

section

variable {α : Type} {le : α → α → Bool} {a b : α} {l : List α}
  (htrans : ∀ a b c, le a b = true → le b c = true → le a c = true)
  (htotal : ∀ a b, (le a b || le b a) = true)

/-- Whether two values stand nowhere apart in the order. -/
def tied (le : α → α → Bool) (a b : α) : Bool := le a b && le b a

theorem tied_iff : tied le a b = true ↔ le a b = true ∧ le b a = true := by
  rw [tied, Bool.and_eq_true]

include htotal in
theorem tied_self (a : α) : tied le a a = true := by
  simpa [tied] using htotal a a

/-! ### Sorted lists -/

include htotal in
/-- The first value of a sorted list is not larger than any. -/
theorem head_le (h : (a :: l).Pairwise fun a b => le a b) (hb : b ∈ a :: l) : le a b = true := by
  rcases List.mem_cons.1 hb with rfl | hb
  · exact (tied_iff.1 (tied_self htotal b)).1
  · exact List.rel_of_pairwise_cons h hb

include htrans htotal in
/-- Sorting keeps the order of values that are in order among themselves. -/
theorem filter_mergeSort {p : α → Bool} (hp : (l.filter p).Pairwise fun a b => le a b) :
    (l.mergeSort le).filter p = l.filter p := by
  have hsub : (l.filter p).Sublist (l.mergeSort le) :=
    List.sublist_mergeSort htrans htotal hp List.filter_sublist
  have hfilter : (l.filter p).Sublist ((l.mergeSort le).filter p) := by
    simpa using hsub.filter p
  have hlength := ((List.mergeSort_perm l le).filter p).length_eq
  exact (hfilter.eq_of_length hlength.symm).symm

include htrans in
theorem pairwise_filter_tied (a : α) (l : List α) :
    (l.filter (tied le a)).Pairwise fun b c => le b c := by
  refine List.pairwise_of_forall_mem_list fun b hb c hc => ?_
  have hab := tied_iff.1 (List.mem_filter.1 hb).2
  have hac := tied_iff.1 (List.mem_filter.1 hc).2
  exact htrans b a c hab.2 hac.1

include htotal in
theorem mem_iff_of_filter_tied {l₁ l₂ : List α}
    (h : ∀ a, l₁.filter (tied le a) = l₂.filter (tied le a)) : a ∈ l₁ ↔ a ∈ l₂ := by
  have := congrArg (a ∈ ·) (h a)
  simpa [tied_self htotal] using this

include htotal in
/-- A sorted list is determined by the order of the values that tie. -/
theorem eq_of_filter_tied {l₁ l₂ : List α} (h₁ : l₁.Pairwise fun a b => le a b)
    (h₂ : l₂.Pairwise fun a b => le a b)
    (htied : ∀ a, l₁.filter (tied le a) = l₂.filter (tied le a)) : l₁ = l₂ := by
  induction l₁ generalizing l₂ with
  | nil =>
    cases l₂ with
    | nil => rfl
    | cons b l₂ => simpa using mem_iff_of_filter_tied htotal htied (a := b)
  | cons a l₁ ih =>
    cases l₂ with
    | nil => simpa using mem_iff_of_filter_tied htotal htied (a := a)
    | cons b l₂ =>
      -- Neither head is larger than the other, so both lead the values that tie with `a`.
      have hab : le a b = true :=
        head_le htotal h₁ ((mem_iff_of_filter_tied htotal htied).2 List.mem_cons_self)
      have hba : le b a = true :=
        head_le htotal h₂ ((mem_iff_of_filter_tied htotal htied).1 List.mem_cons_self)
      have hhead := htied a
      rw [List.filter_cons_of_pos (tied_self htotal a),
        List.filter_cons_of_pos (tied_iff.2 ⟨hab, hba⟩)] at hhead
      obtain ⟨rfl, -⟩ := List.cons.inj hhead
      have hrest : ∀ c, l₁.filter (tied le c) = l₂.filter (tied le c) := by
        intro c
        have hc := htied c
        by_cases hca : tied le c a = true <;> simpa [hca] using hc
      rw [ih h₁.of_cons h₂.of_cons hrest]

/-! ### One value more -/

theorem insertBehind_perm (a : α) (l : List α) : (insertBehind le a l).Perm (a :: l) := by
  induction l with
  | nil => exact .refl _
  | cons b l ih =>
    rw [insertBehind]
    split
    · exact (ih.cons b).trans (.swap a b l)
    · exact .refl _

include htrans htotal in
theorem pairwise_insertBehind (h : l.Pairwise fun a b => le a b) :
    (insertBehind le a l).Pairwise fun a b => le a b := by
  induction l with
  | nil => exact List.pairwise_singleton _ _
  | cons b l ih =>
    obtain ⟨hhead, htail⟩ := List.pairwise_cons.1 h
    rw [insertBehind]
    split
    · rename_i hba
      refine List.pairwise_cons.2 ⟨fun c hc => ?_, ih htail⟩
      rcases List.mem_cons.1 ((insertBehind_perm a l).mem_iff.1 hc) with rfl | hc
      · exact hba
      · exact hhead c hc
    · rename_i hba
      have hab : le a b = true := by simpa [hba] using htotal a b
      refine List.pairwise_cons.2 ⟨fun c hc => ?_, h⟩
      rcases List.mem_cons.1 hc with rfl | hc
      · exact hab
      · exact htrans a b c hab (hhead c hc)

include htrans htotal in
/-- A value stands behind those that tie with it. -/
theorem filter_insertBehind (h : l.Pairwise fun a b => le a b) (c : α) :
    (insertBehind le a l).filter (tied le c) = (l ++ [a]).filter (tied le c) := by
  induction l with
  | nil => rfl
  | cons b l ih =>
    rw [insertBehind]
    split
    · rw [List.cons_append, List.filter_cons, List.filter_cons, ih h.of_cons]
    · rename_i hba
      by_cases hca : tied le c a = true
      · -- Nothing from `b` on ties with `a`, as `b` is larger than `a`.
        have hnone : (b :: l).filter (tied le c) = [] := by
          rw [List.filter_eq_nil_iff]
          intro d hd hcd
          have hda := htrans d c a (tied_iff.1 hcd).2 (tied_iff.1 hca).1
          exact hba (htrans b d a (head_le htotal h hd) hda)
        rw [List.filter_append, hnone, List.filter_cons_of_pos hca, hnone,
          List.filter_cons_of_pos hca]
        rfl
      · rw [List.filter_append, List.filter_cons_of_neg hca, List.filter_cons_of_neg hca,
          List.filter_nil, List.append_nil]

include htrans htotal in
/-- To sort a list with one value more, put the value into the sorted list. -/
theorem mergeSort_concat (l : List α) (a : α) :
    (l ++ [a]).mergeSort le = insertBehind le a (l.mergeSort le) := by
  have hsorted := List.pairwise_mergeSort htrans htotal l
  refine eq_of_filter_tied htotal (List.pairwise_mergeSort htrans htotal _)
    (pairwise_insertBehind htrans htotal hsorted) fun c => ?_
  rw [filter_insertBehind htrans htotal hsorted, List.filter_append,
    filter_mergeSort htrans htotal (pairwise_filter_tied htrans c _),
    filter_mergeSort htrans htotal (pairwise_filter_tied htrans c _), List.filter_append]

/-! ### A bounded pass -/

/-- What is dropped never comes back. -/
theorem take_insertBehind (n : Nat) (a : α) (l : List α) :
    (insertBehind le a (l.take n)).take n = (insertBehind le a l).take n := by
  induction l generalizing n with
  | nil => rw [List.take_nil]
  | cons b l ih =>
    cases n with
    | zero => rfl
    | succ n =>
      rw [List.take_succ_cons, insertBehind, insertBehind]
      split
      · rw [List.take_succ_cons, List.take_succ_cons, ih]
      · cases n with
        | zero => rfl
        | succ n => simp [List.take_take]

include htrans htotal in
/-- The bounded pass selects the first values of the sorted list. -/
theorem smallest_eq_take (n : Nat) (l : List α) : smallest le n l = (l.mergeSort le).take n := by
  induction l using List.reverseRecOn with
  | nil => rw [List.mergeSort_nil, List.take_nil]; rfl
  | append_singleton l a ih =>
    rw [smallest, List.foldl_concat, ← smallest, ih, take_insertBehind,
      mergeSort_concat htrans htotal]

end

end SymbolIndex.Match
