import Mathlib.Algebra.Group.Nat.Defs
import SymbolIndex.Number.Binary64

/-!
# Rounding to the nearest number

`ofQuotient` depends on the value of its quotient only (`ofQuotient_mul_right`), it gives proper
numbers (`proper_ofQuotient`), and a quotient that is a number is rounded to that number
(`ofQuotient_exact`). `ofDecimal` has the same laws, for decimals.
-/

namespace SymbolIndex.Number

variable {num den k : Nat}

theorem roundDiv_mul_right (num den : Nat) (hk : 0 < k) :
    roundDiv (num * k) (den * k) = roundDiv num den := by
  have htwice : 2 * (num % den * k) = 2 * (num % den) * k := (Nat.mul_assoc _ _ _).symm
  simp only [roundDiv, Nat.mul_div_mul_right _ _ hk, Nat.mul_mod_mul_right, htwice,
    Nat.mul_lt_mul_right hk, Nat.mul_left_inj (Nat.ne_of_gt hk)]

theorem roundDiv_mul_self (m : Nat) (hden : 0 < den) : roundDiv (m * den) den = m := by
  have hexact : 2 * (m * den % den) < den := by
    rw [Nat.mul_mod_left]
    exact hden
  rw [roundDiv, if_pos (.inl hexact), Nat.mul_div_cancel m hden]

theorem le_roundDiv (num den : Nat) : num / den ≤ roundDiv num den := by
  unfold roundDiv
  dsimp only
  split
  · exact Nat.le_refl _
  · exact Nat.le_succ _

theorem roundDiv_le (num den : Nat) : roundDiv num den ≤ num / den + 1 := by
  unfold roundDiv
  dsimp only
  split
  · exact Nat.le_succ _
  · exact Nat.le_refl _

namespace Binary64

/-- What rounding gives: a finite number has a mantissa of at most 53 bits, of just so many unless
it is among the smallest, and no exponent beyond the last. -/
def Proper : Binary64 → Prop
  | .finite _ m e => m < 2 ^ 53 ∧ (e = 0 ∨ 2 ^ 52 ≤ m) ∧ e ≤ maxExponent
  | _ => True

/-! ### Quotients -/

/-- The nearest value to `scaled / den` units of the smallest number. -/
def ofScaled (negative : Bool) (scaled den : Nat) : Binary64 :=
  let e := Nat.log2 (scaled / den) - 52
  let m := roundDiv scaled (den * Nat.pow 2 e)
  let (m, e) := if m = Nat.pow 2 53 then (Nat.pow 2 52, e + 1) else (m, e)
  if maxExponent < e then .infinite negative else .finite negative m e

theorem ofQuotient_eq (negative : Bool) (num den : Nat) :
    ofQuotient negative num den = ofScaled negative (num * Nat.pow 2 1074) den := rfl

theorem ofScaled_mul_right (negative : Bool) (scaled den : Nat) (hk : 0 < k) :
    ofScaled negative (scaled * k) (den * k) = ofScaled negative scaled den := by
  have hround : ∀ e, roundDiv (scaled * k) (den * k * Nat.pow 2 e) =
      roundDiv scaled (den * Nat.pow 2 e) := by
    intro e
    rw [Nat.mul_right_comm, roundDiv_mul_right _ _ hk]
  simp only [ofScaled, hround, Nat.mul_div_mul_right _ _ hk]

theorem ofQuotient_mul_right (negative : Bool) (num den : Nat) (hk : 0 < k) :
    ofQuotient negative (num * k) (den * k) = ofQuotient negative num den := by
  rw [ofQuotient_eq, ofQuotient_eq, Nat.mul_right_comm, ofScaled_mul_right _ _ _ hk]

theorem log2_mul_pow {m : Nat} (hm : m ≠ 0) (e : Nat) : Nat.log2 (m * 2 ^ e) = Nat.log2 m + e := by
  have hpos : m * 2 ^ e ≠ 0 := Nat.mul_ne_zero hm (Nat.ne_of_gt (Nat.two_pow_pos e))
  rw [Nat.log2_eq_iff hpos, Nat.pow_add, Nat.add_right_comm, Nat.pow_add]
  have hself := (Nat.log2_eq_iff hm).1 rfl
  exact ⟨Nat.mul_le_mul_right _ hself.1,
    Nat.mul_lt_mul_of_pos_right hself.2 (Nat.two_pow_pos e)⟩

/-- The exponent of a proper number is found from its value. -/
theorem log2_sub_of_proper {negative : Bool} {m e : Nat} (h : Proper (.finite negative m e))
    (hm : m ≠ 0) : Nat.log2 (m * 2 ^ e) - 52 = e := by
  obtain ⟨hlt, hnormal, _⟩ := h
  have hupper : Nat.log2 m < 53 := (Nat.log2_lt hm).2 hlt
  rw [log2_mul_pow hm]
  rcases hnormal with rfl | hnormal
  · omega
  · have hlower : 52 ≤ Nat.log2 m := (Nat.le_log2 hm).2 hnormal
    omega

/-- A quotient that is a number is rounded to it. -/
theorem ofScaled_exact (negative : Bool) {m e : Nat} (h : Proper (.finite negative m e))
    (hm : m ≠ 0) (hden : 0 < den) :
    ofScaled negative (m * 2 ^ e * den) den = .finite negative m e := by
  have hdiv : m * 2 ^ e * den / den = m * 2 ^ e := Nat.mul_div_cancel _ hden
  have hround : roundDiv (m * 2 ^ e * den) (den * Nat.pow 2 e) = m := by
    rw [Nat.mul_assoc, Nat.mul_comm _ den]
    exact roundDiv_mul_self m (Nat.mul_pos hden (Nat.two_pow_pos e))
  have hne : m ≠ Nat.pow 2 53 := Nat.ne_of_lt h.1
  have hmax : ¬ maxExponent < e := Nat.not_lt.2 h.2.2
  simp only [ofScaled, hdiv, log2_sub_of_proper h hm, hround, if_neg hne, if_neg hmax]

theorem ofQuotient_exact (negative : Bool) {m e : Nat} (h : Proper (.finite negative m e))
    (hm : m ≠ 0) (hden : 0 < den) (heq : num * Nat.pow 2 1074 = m * 2 ^ e * den) :
    ofQuotient negative num den = .finite negative m e := by
  rw [ofQuotient_eq, heq, ofScaled_exact negative h hm hden]

/-- The mantissa that rounding finds, before it is carried over. -/
theorem roundDiv_bounds (n den : Nat) :
    roundDiv n (den * 2 ^ (Nat.log2 (n / den) - 52)) ≤ 2 ^ 53 ∧
      (Nat.log2 (n / den) - 52 = 0 ∨
        2 ^ 52 ≤ roundDiv n (den * 2 ^ (Nat.log2 (n / den) - 52))) := by
  have hlower := le_roundDiv n (den * 2 ^ (Nat.log2 (n / den) - 52))
  have hupper := roundDiv_le n (den * 2 ^ (Nat.log2 (n / den) - 52))
  rw [← Nat.div_div_eq_div_mul] at hlower hupper
  generalize n / den = q at hlower hupper ⊢
  have hpow : 0 < 2 ^ (Nat.log2 q - 52) := Nat.two_pow_pos _
  constructor
  · have hlt : q < 2 ^ 53 * 2 ^ (Nat.log2 q - 52) := by
      rw [← Nat.pow_add]
      exact Nat.lt_of_lt_of_le Nat.lt_log2_self (Nat.pow_le_pow_right (by decide) (by omega))
    have hfloor := (Nat.div_lt_iff_lt_mul hpow).2 hlt
    exact Nat.le_trans hupper hfloor
  · rcases Nat.eq_zero_or_pos (Nat.log2 q - 52) with hzero | hpos
    · exact .inl hzero
    · refine .inr (Nat.le_trans ((Nat.le_div_iff_mul_le hpow).2 ?_) hlower)
      have hne : q ≠ 0 := by
        rintro rfl
        rw [Nat.log2_zero] at hpos
        exact absurd hpos (by decide)
      rw [← Nat.pow_add, Nat.add_sub_of_le (by omega)]
      exact Nat.log2_self_le hne

theorem proper_ofScaled (negative : Bool) (scaled den : Nat) :
    Proper (ofScaled negative scaled den) := by
  obtain ⟨hle, hnormal⟩ := roundDiv_bounds scaled den
  unfold ofScaled
  simp only [Nat.pow_eq]
  generalize Nat.log2 (scaled / den) - 52 = e at hle hnormal ⊢
  generalize roundDiv scaled (den * 2 ^ e) = m at hle hnormal ⊢
  by_cases hcarry : m = 2 ^ 53
  · rw [if_pos hcarry]
    dsimp only
    split
    · trivial
    · exact ⟨by decide, .inr (Nat.le_refl _), Nat.not_lt.1 ‹_›⟩
  · rw [if_neg hcarry]
    dsimp only
    split
    · trivial
    · exact ⟨Nat.lt_of_le_of_ne hle hcarry, hnormal, Nat.not_lt.1 ‹_›⟩

theorem proper_ofQuotient (negative : Bool) (num den : Nat) :
    Proper (ofQuotient negative num den) := by
  rw [ofQuotient_eq]
  exact proper_ofScaled negative _ den

/-! ### Signs -/

def withSign (negative : Bool) : Binary64 → Binary64
  | .finite _ m e => .finite negative m e
  | .infinite _ => .infinite negative
  | .nan => .nan

theorem ofScaled_sign (negative : Bool) (scaled den : Nat) :
    ofScaled negative scaled den = (ofScaled false scaled den).withSign negative := by
  unfold ofScaled
  dsimp only
  generalize (if roundDiv scaled _ = Nat.pow 2 53 then _ else _ : Nat × Nat) = found
  split <;> rfl

theorem ofQuotient_sign (negative : Bool) (num den : Nat) :
    ofQuotient negative num den = (ofQuotient false num den).withSign negative := by
  rw [ofQuotient_eq, ofQuotient_eq, ofScaled_sign]

/-! ### Decimals -/

/-- The nearest value to a decimal, whatever its size. -/
def ofRatio (negative : Bool) (coefficient : Nat) (exponent : Int) : Binary64 :=
  if exponent < 0 then ofQuotient negative coefficient (Nat.pow 10 (-exponent).toNat)
  else ofQuotient negative (coefficient * Nat.pow 10 exponent.toNat) 1

variable {c : Nat}

theorem ofDecimal_eq (negative : Bool) (c : Nat) (x : Int) : ofDecimal negative c x =
    if c = 0 ∨ decimalLength c + x < -330 then .finite negative 0 0
    else if 310 < decimalLength c + x then .infinite negative
    else ofRatio negative c x := rfl

theorem ofRatio_mul_ten (negative : Bool) (c : Nat) (x : Int) :
    ofRatio negative (c * 10) x = ofRatio negative c (x + 1) := by
  unfold ofRatio
  rcases Int.lt_or_le x 0 with hx | hx
  · obtain ⟨k, hk⟩ : ∃ k : Nat, x = -(k + 1 : Nat) := ⟨(-x).toNat - 1, by omega⟩
    have hpow : Nat.pow 10 (k + 1) = Nat.pow 10 k * 10 := rfl
    rw [if_pos hx, show (-x).toNat = k + 1 by omega, hpow, ofQuotient_mul_right _ _ _ (by decide)]
    cases k with
    | zero =>
      rw [if_neg (by omega), show (x + 1).toNat = 0 by omega]
      exact congrArg (ofQuotient negative · 1) (Nat.mul_one c).symm
    | succ k => rw [if_pos (by omega), show (-(x + 1)).toNat = k + 1 by omega]
  · have hpow : Nat.pow 10 (x + 1).toNat = 10 * Nat.pow 10 x.toNat := by
      rw [show (x + 1).toNat = x.toNat + 1 by omega]
      exact Nat.mul_comm _ _
    rw [if_neg (by omega), if_neg (by omega), hpow, Nat.mul_assoc]

theorem decimalLength_mul_ten (hc : 0 < c) : decimalLength (c * 10) = decimalLength c + 1 := by
  rw [decimalLength, Nat.toDigits_of_base_le (by decide) (by omega),
    Nat.mul_div_cancel c (by decide), List.length_append, List.length_singleton, decimalLength]

/-- A zero at the end of a coefficient is worth one more in the exponent. -/
theorem ofDecimal_mul_ten (negative : Bool) (hc : 0 < c) (x : Int) :
    ofDecimal negative (c * 10) x = ofDecimal negative c (x + 1) := by
  rw [ofDecimal_eq, ofDecimal_eq, decimalLength_mul_ten hc, ofRatio_mul_ten]
  have hsize : ((decimalLength c + 1 : Nat) : Int) + x = decimalLength c + (x + 1) := by omega
  have hzero : c * 10 = 0 ↔ c = 0 := by omega
  simp only [hsize, hzero]

theorem ofDecimal_mul_pow (negative : Bool) (hc : 0 < c) (k : Nat) (x : Int) :
    ofDecimal negative (c * 10 ^ k) x = ofDecimal negative c (x + k) := by
  induction k generalizing x with
  | zero => rw [Nat.pow_zero, Nat.mul_one, Int.natCast_zero, Int.add_zero]
  | succ k ih =>
    rw [Nat.pow_succ, ← Nat.mul_assoc,
      ofDecimal_mul_ten negative (Nat.mul_pos hc (Nat.pow_pos (by decide))), ih]
    congr 1
    omega

theorem ofRatio_sign (negative : Bool) (c : Nat) (x : Int) :
    ofRatio negative c x = (ofRatio false c x).withSign negative := by
  unfold ofRatio
  split <;> exact ofQuotient_sign _ _ _

theorem ofDecimal_sign (negative : Bool) (c : Nat) (x : Int) :
    ofDecimal negative c x = (ofDecimal false c x).withSign negative := by
  rw [ofDecimal_eq, ofDecimal_eq]
  split
  · rfl
  split
  · rfl
  · exact ofRatio_sign negative c x

theorem proper_ofDecimal (negative : Bool) (c : Nat) (x : Int) :
    Proper (ofDecimal negative c x) := by
  rw [ofDecimal_eq]
  split
  · exact ⟨by decide, .inl rfl, Nat.zero_le _⟩
  split
  · trivial
  · unfold ofRatio
    split <;> exact proper_ofQuotient _ _ _

end Binary64

end SymbolIndex.Number
