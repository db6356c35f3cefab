import Mathlib.Algebra.Group.Nat.Defs
import SymbolIndex.Text.Numeral

/-!
# Numerals that are not too long

A numeral that is read has at most `maxDigits` digits in whatever script, and so has the number
when it is written in decimal (`length_toDigits_of_read?`).
-/

namespace SymbolIndex.Text.Numeral

variable {s : List Char} {ds : List Nat} {n : Nat}

theorem digitValue?_lt {c : Char} {d : Nat} (h : Unicode.digitValue? c = some d) : d < 10 := by
  obtain ⟨z, hz, rfl⟩ := Option.map_eq_some_iff.1 h
  have hrange := List.find?_some hz
  simp only [Bool.and_eq_true, decide_eq_true_eq] at hrange
  omega

theorem digitValues?_lt (h : digitValues? s = some ds) : ds ≠ [] ∧ ∀ d ∈ ds, d < 10 := by
  fun_induction digitValues? s generalizing ds with
  | case1 => cases h
  | case2 c =>
    obtain ⟨d, hd, rfl⟩ := Option.map_eq_some_iff.1 h
    exact ⟨List.cons_ne_nil _ _, List.forall_mem_singleton.2 (digitValue?_lt hd)⟩
  | case3 c rest ih =>
    obtain ⟨d, hd, h⟩ := Option.bind_eq_some_iff.1 h
    obtain ⟨rest', hrest, h⟩ := Option.bind_eq_some_iff.1 h
    cases h
    exact ⟨List.cons_ne_nil _ _, List.forall_mem_cons.2 ⟨digitValue?_lt hd, (ih hrest).2⟩⟩
  | case4 c rest _ _ ih =>
    obtain ⟨d, hd, h⟩ := Option.bind_eq_some_iff.1 h
    obtain ⟨rest', hrest, h⟩ := Option.bind_eq_some_iff.1 h
    cases h
    exact ⟨List.cons_ne_nil _ _, List.forall_mem_cons.2 ⟨digitValue?_lt hd, (ih hrest).2⟩⟩

theorem foldl_digits_lt (h : ∀ d ∈ ds, d < 10) (n : Nat) :
    ds.foldl (fun n d => 10 * n + d) n < (n + 1) * 10 ^ ds.length := by
  induction ds generalizing n with
  | nil => simp
  | cons d ds ih =>
    obtain ⟨hd, hrest⟩ := List.forall_mem_cons.1 h
    have hstep : 10 * n + d + 1 ≤ (n + 1) * 10 := by omega
    calc
      _ < (10 * n + d + 1) * 10 ^ ds.length := ih hrest _
      _ ≤ (n + 1) * 10 * 10 ^ ds.length := Nat.mul_le_mul_right _ hstep
      _ = (n + 1) * 10 ^ (d :: ds).length := by
        rw [List.length_cons, Nat.pow_succ', Nat.mul_assoc]

theorem length_toDigits_of_unsigned? (h : unsigned? s = some n) :
    (Nat.toDigits 10 n).length ≤ maxDigits := by
  obtain ⟨ds, hds, h⟩ := Option.bind_eq_some_iff.1 h
  obtain ⟨hne, hlt⟩ := digitValues?_lt hds
  split at h
  · rename_i hlen
    cases h
    refine Nat.le_trans ?_ hlen
    rw [Nat.length_toDigits_le_iff (by decide) (List.length_pos_iff.2 hne)]
    have hbound := foldl_digits_lt hlt 0
    rwa [Nat.zero_add, Nat.one_mul] at hbound
  · cases h

theorem length_toDigits_of_read? {n : Int} (h : read? s = some n) :
    (Nat.toDigits 10 n.natAbs).length ≤ maxDigits := by
  unfold read? at h
  split at h
  · obtain ⟨a, ha, rfl⟩ := Option.map_eq_some_iff.1 h
    exact length_toDigits_of_unsigned? ha
  · obtain ⟨a, ha, rfl⟩ := Option.map_eq_some_iff.1 h
    rw [Int.natAbs_neg]
    exact length_toDigits_of_unsigned? ha
  · obtain ⟨a, ha, rfl⟩ := Option.map_eq_some_iff.1 h
    exact length_toDigits_of_unsigned? ha

end SymbolIndex.Text.Numeral
