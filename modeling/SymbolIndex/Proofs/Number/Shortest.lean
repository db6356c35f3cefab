import SymbolIndex.Number.Shortest
import SymbolIndex.Proofs.Number.Rounding

/-!
# Shortest decimals read back

The search for few digits takes a decimal only if it reads back, and where it finds none all
digits do (`ofDecimal_exact`). So the decimal that is written for a proper number is read as that
number (`ofDecimal_shortest`), and dropping the zeros at its end changes nothing.
-/

namespace SymbolIndex.Number.Binary64

variable {negative : Bool} {m e : Nat}

/-! ### All digits -/

theorem decimalLength_le_iff {n k : Nat} (hk : 0 < k) : decimalLength n ≤ k ↔ n < 10 ^ k :=
  Nat.length_toDigits_le_iff (by decide) hk

theorem decimalLength_pos (n : Nat) : 0 < decimalLength n := Nat.length_toDigits_pos

/-- The digits of a number below one: not too many for their exponent, and not too few. -/
theorem decimalLength_mul_five_pow {k : Nat} (hm : m < 2 ^ 53) (hpos : m ≠ 0) (hk : k ≤ 1074) :
    decimalLength (m * 5 ^ k) ≤ 16 + k ∧ k ≤ decimalLength (m * 5 ^ k) + 330 := by
  constructor
  · rw [decimalLength_le_iff (by omega), Nat.pow_add]
    exact Nat.mul_lt_mul_of_lt_of_le (Nat.lt_trans hm (by decide))
      (Nat.pow_le_pow_left (by decide) k) (Nat.pow_pos (by decide))
  · refine Nat.le_of_not_lt fun hshort => ?_
    obtain ⟨j, rfl⟩ : ∃ j, k = j + 331 := ⟨k - 331, by omega⟩
    have hlen := decimalLength_pos (m * 5 ^ (j + 331))
    have hlt : m * 5 ^ (j + 331) < 10 ^ j := by
      rw [← decimalLength_le_iff (by omega)]
      omega
    have hsplit : ∀ n, 5 ^ (j + n) = 5 ^ j * 5 ^ n := fun n => Nat.pow_add 5 j n
    have hfive : 2 ^ 743 ≤ 5 ^ 331 := by decide +kernel
    have hge : 10 ^ j ≤ m * 5 ^ (j + 331) := by
      calc 10 ^ j = 5 ^ j * 2 ^ j := Nat.mul_pow 5 2 j
        _ ≤ 5 ^ j * 5 ^ 331 :=
          Nat.mul_le_mul_left _ (Nat.le_trans (Nat.pow_le_pow_right (by decide) (by omega)) hfive)
        _ = 5 ^ (j + 331) := (hsplit 331).symm
        _ ≤ m * 5 ^ (j + 331) := Nat.le_mul_of_pos_left _ (Nat.pos_of_ne_zero hpos)
    omega

theorem decimalLength_mul_two_pow {k : Nat} (hm : m < 2 ^ 53) (hk : k ≤ 971) :
    decimalLength (m * 2 ^ k) ≤ 309 := by
  rw [decimalLength_le_iff (by decide)]
  have hbound : ∀ a b, m < 2 ^ a → k ≤ b → m * 2 ^ k ≤ 2 ^ a * 2 ^ b := fun _ _ hm hk =>
    Nat.mul_le_mul (Nat.le_of_lt hm) (Nat.pow_le_pow_right (by decide) hk)
  have htop : 2 ^ 53 * 2 ^ 971 < 10 ^ 309 := by decide +kernel
  exact Nat.lt_of_le_of_lt (hbound 53 971 hm hk) htop

/-- A number below one as a quotient. -/
theorem scaled_fraction (m e k : Nat) :
    m * 5 ^ k * 2 ^ (e + k) = m * 2 ^ e * 10 ^ k := by
  have hten : 10 ^ k = 5 ^ k * 2 ^ k := Nat.mul_pow 5 2 k
  have hsplit : 2 ^ (e + k) = 2 ^ e * 2 ^ k := Nat.pow_add 2 e k
  rw [hten, hsplit]
  ac_rfl

/-- A number of at least one as a quotient. -/
theorem scaled_whole (m j k : Nat) : m * 2 ^ k * 2 ^ j = m * 2 ^ (j + k) * 1 := by
  have hsplit : 2 ^ (j + k) = 2 ^ j * 2 ^ k := Nat.pow_add 2 j k
  rw [Nat.mul_one, hsplit]
  ac_rfl

theorem ofRatio_fraction (negative : Bool) (h : Proper (.finite negative m e)) (hm : m ≠ 0)
    {k : Nat} (hpos : 0 < k) (hk : e + k = 1074) :
    ofRatio negative (m * 5 ^ k) (-(k : Int)) = .finite negative m e := by
  rw [ofRatio, if_pos (by omega), show (-(-(k : Int))).toNat = k by omega]
  refine ofQuotient_exact negative h hm (Nat.pow_pos (by decide)) ?_
  rw [← hk]
  exact scaled_fraction m e k

theorem ofRatio_whole (negative : Bool) {k : Nat}
    (h : Proper (.finite negative m (1074 + k))) (hm : m ≠ 0) :
    ofRatio negative (m * 2 ^ k) 0 = .finite negative m (1074 + k) := by
  rw [ofRatio, if_neg (by decide)]
  refine ofQuotient_exact negative h hm (by decide) ?_
  rw [show Nat.pow 10 (Int.toNat 0) = 1 from rfl, Nat.mul_one]
  generalize 1074 = one at h ⊢
  exact scaled_whole m one k

/-- All digits of a number read back as the number. -/
theorem ofDecimal_exact (negative : Bool) (h : Proper (.finite negative m e)) (hm : m ≠ 0) :
    ofDecimal negative (exact m e).digits (exact m e).exponent = .finite negative m e := by
  unfold exact
  by_cases he : e < 1074
  · obtain ⟨k, hk⟩ : ∃ k, 1074 = e + (k + 1) := ⟨1073 - e, by omega⟩
    obtain ⟨hlong, hshort⟩ := decimalLength_mul_five_pow h.1 hm (k := k + 1) (by omega)
    have hne : m * 5 ^ (k + 1) ≠ 0 := Nat.mul_ne_zero hm (Nat.ne_of_gt (Nat.pow_pos (by decide)))
    rw [if_pos he, show 1074 - e = k + 1 by omega, ofDecimal_eq]
    dsimp only [Nat.pow_eq]
    rw [if_neg (by omega), if_neg (by omega)]
    exact ofRatio_fraction negative h hm (Nat.succ_pos k) hk.symm
  · obtain ⟨k, rfl⟩ : ∃ k, e = 1074 + k := ⟨e - 1074, by omega⟩
    have hmax : 1074 + k ≤ 2045 := h.2.2
    have hlong := decimalLength_mul_two_pow h.1 (k := k) (by omega)
    have hne : m * 2 ^ k ≠ 0 := Nat.mul_ne_zero hm (Nat.ne_of_gt (Nat.two_pow_pos k))
    rw [if_neg he, Nat.add_sub_cancel_left, ofDecimal_eq]
    dsimp only [Nat.pow_eq]
    rw [if_neg (by omega), if_neg (by omega)]
    exact ofRatio_whole negative h hm

/-! ### The shortest digits -/

/-- A decimal that reads back: not zero, and read as the number. -/
def ReadsBack (m e : Nat) (d : Decimal) : Prop :=
  0 < d.digits ∧ ∀ negative, ofDecimal negative d.digits d.exponent = .finite negative m e

theorem readsBack_of_unsigned {d : Decimal} (hm : m ≠ 0)
    (h : ofDecimal false d.digits d.exponent = .finite false m e) : ReadsBack m e d := by
  constructor
  · refine Nat.pos_of_ne_zero fun hzero => hm ?_
    rw [hzero, ofDecimal_eq, if_pos (.inl rfl)] at h
    injection h with _ hmantissa
    exact hmantissa.symm
  · intro negative
    rw [ofDecimal_sign, h]
    rfl

theorem ofDecimal_of_mem_onGrid {x : Binary64} {num den : Nat} {exponent : Int} {d : Decimal}
    (h : d ∈ onGrid x num den exponent) : ofDecimal false d.digits d.exponent = x := by
  unfold onGrid at h
  obtain ⟨digits, -, hfound⟩ := List.mem_filterMap.1 h
  split at hfound
  · injection hfound with hfound
    subst hfound
    assumption
  · nomatch hfound

/-- Where the search finds nothing, all digits stand. -/
theorem readsBack_shortest (h : Proper (.finite negative m e)) (hm : m ≠ 0) :
    ReadsBack m e (shortest m e) := by
  refine readsBack_of_unsigned hm ?_
  unfold shortest
  dsimp only
  generalize hfound : List.findSome? _ _ = found
  cases found with
  | none => exact ofDecimal_exact false h hm
  | some d =>
    obtain ⟨grid, -, hd⟩ := List.exists_of_findSome?_eq_some hfound
    exact ofDecimal_of_mem_onGrid (List.mem_of_head? hd)

theorem readsBack_trimZeros {d : Decimal} (h : ReadsBack m e d) (fuel : Nat) :
    ReadsBack m e (trimZeros fuel d) := by
  induction fuel generalizing d with
  | zero => exact h
  | succ fuel ih =>
    unfold trimZeros
    split
    next hzeros =>
      have hten : d.digits / 10 * 10 = d.digits := by omega
      have hpos : 0 < d.digits / 10 := by omega
      refine ih ⟨hpos, fun negative => ?_⟩
      rw [← ofDecimal_mul_ten negative hpos, hten]
      exact h.2 negative
    next => exact h

end SymbolIndex.Number.Binary64
