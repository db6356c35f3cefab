import Mathlib.Data.List.Basic

/-!
# Classes of ASCII characters

The classes of letters and digits as ranges of code points, and checks of the first 128 characters
that say something about all characters of a class (`of_ascii`).
-/

namespace SymbolIndex.Text

variable {c : Char}

theorem isUpper_iff_toNat : c.isUpper = true ↔ 65 ≤ c.toNat ∧ c.toNat ≤ 90 := by
  unfold Char.isUpper
  simp [UInt32.le_iff_toNat_le, ← Char.toNat_val]

theorem isLower_iff_toNat : c.isLower = true ↔ 97 ≤ c.toNat ∧ c.toNat ≤ 122 := by
  unfold Char.isLower
  simp [UInt32.le_iff_toNat_le, ← Char.toNat_val]

theorem isDigit_iff_toNat : c.isDigit = true ↔ 48 ≤ c.toNat ∧ c.toNat ≤ 57 :=
  Char.isDigit_iff_toNat

theorem isAlphanum_iff :
    c.isAlphanum = true ↔ c.isUpper = true ∨ c.isLower = true ∨ c.isDigit = true := by
  unfold Char.isAlphanum Char.isAlpha
  rw [Bool.or_eq_true, Bool.or_eq_true, or_assoc]

theorem toNat_lt_of_isAlphanum (h : c.isAlphanum = true) : c.toNat < 128 := by
  simp only [isAlphanum_iff, isUpper_iff_toNat, isLower_iff_toNat, isDigit_iff_toNat] at h
  omega

/-- What the first 128 characters satisfy, every ASCII character satisfies. -/
theorem of_ascii {P : Char → Prop} (h : ∀ n < 128, P (Char.ofNat n)) :
    ∀ c : Char, c.toNat < 128 → P c := by
  intro c hc
  simpa using h c.toNat hc

theorem toLower_of_not_isUpper (h : ¬ c.isUpper = true) : c.toLower = c := by
  unfold Char.isUpper at h
  rw [decide_eq_true_eq] at h
  exact dif_neg h

theorem toLower_of_forall {text : String} (h : ∀ c ∈ text.toList, ¬ c.isUpper = true) :
    text.toLower = text := by
  have hmap : text.toList.map Char.toLower = text.toList.map id :=
    List.map_congr_left fun c hc => toLower_of_not_isUpper (h c hc)
  rw [List.map_id, ← String.toList_map] at hmap
  exact String.toList_injective hmap

end SymbolIndex.Text
