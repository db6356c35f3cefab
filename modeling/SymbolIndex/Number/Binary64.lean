/-!
# Binary floating point

The numbers of the 64-bit binary format: a sign, and either a mantissa below `2 ^ 53` scaled by
a power of two, or infinity; and one value that is not a number. `ofDecimal` rounds a decimal to
the nearest of them, ties to the even mantissa, in exact arithmetic.
-/

namespace SymbolIndex.Number

/-- `finite negative m e` is `m * 2 ^ (e - 1074)`, with `m < 2 ^ 53` and `e = 0` unless
`2 ^ 52 ≤ m`. -/
inductive Binary64 where
  | finite (negative : Bool) (mantissa exponent : Nat)
  | infinite (negative : Bool)
  | nan
  deriving DecidableEq, Repr

/-- The whole number nearest to `num / den`, the even one of two. -/
def roundDiv (num den : Nat) : Nat :=
  let q := num / den
  let twice := 2 * (num % den)
  if twice < den ∨ (twice = den ∧ q % 2 = 0) then q else q + 1

namespace Binary64

/-- The exponent of the last finite binade. -/
def maxExponent : Nat := 2045

/-- The nearest value to `num / den`. -/
def ofQuotient (negative : Bool) (num den : Nat) : Binary64 :=
  let scaled := num * Nat.pow 2 1074
  let e := Nat.log2 (scaled / den) - 52
  let m := roundDiv scaled (den * Nat.pow 2 e)
  let (m, e) := if m = Nat.pow 2 53 then (Nat.pow 2 52, e + 1) else (m, e)
  if maxExponent < e then .infinite negative else .finite negative m e

/-- The number of decimal digits. -/
def decimalLength (n : Nat) : Nat := (Nat.toDigits 10 n).length

/-- The nearest value to `coefficient * 10 ^ exponent`. Decimals beyond `10 ^ 310` are infinite
and those below `10 ^ (-330)` are zero without further arithmetic. -/
def ofDecimal (negative : Bool) (coefficient : Nat) (exponent : Int) : Binary64 :=
  let size := decimalLength coefficient + exponent
  if coefficient = 0 ∨ size < -330 then .finite negative 0 0
  else if 310 < size then .infinite negative
  else if exponent < 0 then ofQuotient negative coefficient (Nat.pow 10 (-exponent).toNat)
  else ofQuotient negative (coefficient * Nat.pow 10 exponent.toNat) 1

def one : Binary64 := .finite false (Nat.pow 2 52) 1022

end Binary64

end SymbolIndex.Number
