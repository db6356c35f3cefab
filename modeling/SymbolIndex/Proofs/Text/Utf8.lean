import Mathlib.Data.List.Basic
import SymbolIndex.Text.Utf8

/-!
# Encoded text is read back

The decoding machine takes the bytes of one character after the other (`run_encodeChar`), so
strict and lossy decoding give back every text that was encoded.
-/

namespace SymbolIndex.Text.Utf8

theorem toNat_ofNat_of_lt {n : Nat} (h : n < 256) : (UInt8.ofNat n).toNat = n := by
  rw [UInt8.toNat_ofNat']
  exact Nat.mod_eq_of_lt h

/-- The first byte of a character of several bytes. -/
theorem run_first {n : Nat} {p : Begun} (hn : n < 256) (hf : first n = ([], some p))
    (rest : List UInt8) : run none (.ofNat n :: rest) = run (some p) rest := by
  rw [run, toNat_ofNat_of_lt hn, step, hf]
  rfl

theorem run_continue {p : Begun} {k : Nat} (hk : k < 64) (hneed : p.need ≠ 1)
    (hlow : p.low ≤ 0x80 + k) (hhigh : 0x80 + k ≤ p.high) (rest : List UInt8) :
    run (some p) (.ofNat (0x80 + k) :: rest) =
      run (some ⟨p.need - 1, 0x80, 0xbf, p.value * 64 + k, p.taken + 1⟩) rest := by
  rw [run, toNat_ofNat_of_lt (by omega), step, if_pos ⟨hlow, hhigh⟩, if_neg hneed,
    Nat.add_sub_cancel_left]
  rfl

theorem run_last {p : Begun} {k : Nat} (hk : k < 64) (hneed : p.need = 1)
    (hlow : p.low ≤ 0x80 + k) (hhigh : 0x80 + k ≤ p.high) (rest : List UInt8) :
    run (some p) (.ofNat (0x80 + k) :: rest) =
      .char (Char.ofNat (p.value * 64 + k)) :: run none rest := by
  rw [run, toNat_ofNat_of_lt (by omega), step, if_pos ⟨hlow, hhigh⟩, if_pos hneed,
    Nat.add_sub_cancel_left]
  rfl

/-! ### First bytes -/

theorem first_of_two {k : Nat} (hlow : 2 ≤ k) (hhigh : k < 32) :
    first (0xc0 + k) = ([], some ⟨1, 0x80, 0xbf, k, 1⟩) := by
  rw [first, if_neg (by omega), if_neg (by omega), if_pos (by omega), Nat.add_sub_cancel_left]

theorem first_of_three {k : Nat} (hhigh : k < 16) :
    first (0xe0 + k) =
      ([], some ⟨2, if k = 0 then 0xa0 else 0x80, if k = 0xd then 0x9f else 0xbf, k, 1⟩) := by
  rw [first, if_neg (by omega), if_neg (by omega), if_neg (by omega), if_pos (by omega),
    Nat.add_sub_cancel_left]
  have hlow : 0xe0 + k = 0xe0 ↔ k = 0 := by omega
  have hsurrogate : 0xe0 + k = 0xed ↔ k = 0xd := by omega
  simp only [hlow, hsurrogate]

theorem first_of_four {k : Nat} (hhigh : k < 5) :
    first (0xf0 + k) =
      ([], some ⟨3, if k = 0 then 0x90 else 0x80, if k = 4 then 0x8f else 0xbf, k, 1⟩) := by
  rw [first, if_neg (by omega), if_neg (by omega), if_neg (by omega), if_neg (by omega),
    if_pos (by omega), Nat.add_sub_cancel_left]
  have hlow : 0xf0 + k = 0xf0 ↔ k = 0 := by omega
  have htop : 0xf0 + k = 0xf4 ↔ k = 4 := by omega
  simp only [hlow, htop]

/-! ### Characters and texts -/

theorem run_encodeChar (c : Char) (rest : List UInt8) :
    run none (encodeChar c ++ rest) = .char c :: run none rest := by
  have hvalid : c.toNat < 0xd800 ∨ 0xdfff < c.toNat ∧ c.toNat < 0x110000 := c.valid
  have hchar : ∀ n, n = c.toNat → Char.ofNat n = c := by
    rintro n rfl
    exact Char.ofNat_toNat c
  have hmod : ∀ m, m % 64 < 64 := fun m => Nat.mod_lt _ (by decide)
  unfold encodeChar
  generalize c.toNat = n at hvalid hchar
  simp only
  split
  · rename_i h
    rw [List.cons_append, List.nil_append, run, toNat_ofNat_of_lt (by omega), step, first, if_pos h,
      hchar n rfl]
    rfl
  split
  · rename_i h
    simp only [List.cons_append, List.nil_append]
    rw [run_first (by omega) (first_of_two (by omega) (by omega)),
      run_last (hmod n) rfl (by simp only; omega) (by have := hmod n; simp only; omega)]
    rw [hchar _ (by simp only; omega)]
  split
  · rename_i h
    simp only [List.cons_append, List.nil_append]
    rw [run_first (by omega) (first_of_three (by omega)),
      run_continue (hmod (n / 64)) (by simp) (by simp only; split <;> omega)
        (by have := hmod (n / 64); simp only; split <;> omega),
      run_last (hmod n) rfl (by simp only; omega) (by have := hmod n; simp only; omega)]
    rw [hchar _ (by simp only; omega)]
  · simp only [List.cons_append, List.nil_append]
    rw [run_first (by omega) (first_of_four (by omega)),
      run_continue (hmod (n / 4096)) (by simp) (by simp only; split <;> omega)
        (by have := hmod (n / 4096); simp only; split <;> omega),
      run_continue (hmod (n / 64)) (by simp) (by simp only; omega)
        (by have := hmod (n / 64); simp only; omega),
      run_last (hmod n) rfl (by simp only; omega) (by have := hmod n; simp only; omega)]
    rw [hchar _ (by simp only; omega)]

theorem run_encode (s : List Char) (rest : List UInt8) :
    run none (encode s ++ rest) = s.map .char ++ run none rest := by
  induction s with
  | nil => rfl
  | cons c s ih =>
    have h : encode (c :: s) = encodeChar c ++ encode s := List.flatMap_cons
    rw [h, List.append_assoc, run_encodeChar, ih, List.map_cons, List.cons_append]

theorem collect_map_char (bytes : List UInt8) (pos : Nat) (s : List Char) :
    collect bytes pos (s.map .char) = .ok s := by
  induction s generalizing pos with
  | nil => rfl
  | cons c s ih =>
    rw [List.map_cons, collect, ih]
    rfl

theorem pieces_encode (s : List Char) : pieces (encode s) = s.map .char := by
  have h := run_encode s []
  have hnil : run none [] = [] := rfl
  rwa [hnil, List.append_nil, List.append_nil] at h

theorem decode_encode (s : List Char) : decode (encode s) = .ok s := by
  rw [decode, pieces_encode, collect_map_char]

theorem decodeLossy_encode (s : List Char) : decodeLossy (encode s) = s := by
  rw [decodeLossy, pieces_encode, List.map_map]
  exact List.map_id s

end SymbolIndex.Text.Utf8
