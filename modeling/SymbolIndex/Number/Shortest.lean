import SymbolIndex.Number.Binary64

/-!
# Shortest decimals

The decimal text of a binary number has the fewest digits that read back as that number and is
the nearest of those; the even one of two equally near. It is positional for exponents from -4
to 15, and scientific with a signed exponent of at least two digits outside.
-/

namespace SymbolIndex.Number

/-- `digits * 10 ^ exponent`. -/
structure Decimal where
  digits : Nat
  exponent : Int
  deriving DecidableEq, Repr

namespace Binary64

/-- The floor of the decimal logarithm of `num / den`. -/
def floorLog10 (num den : Nat) : Int :=
  if den ≤ num then decimalLength (num / den) - 1
  else
    let j := decimalLength (den / num)
    if den ≤ num * Nat.pow 10 (j - 1) then -(j - 1 : Nat) else -(j : Nat)

/-- `num / den` scaled by `10 ^ (-exponent)`, as a quotient. -/
def scaleDown (num den : Nat) (exponent : Int) : Nat × Nat :=
  if exponent < 0 then (num * Nat.pow 10 (-exponent).toNat, den)
  else (num, den * Nat.pow 10 exponent.toNat)

/-- The decimals next to `num / den` on the grid `10 ^ exponent` that read back as `x`, the
nearer first. -/
def onGrid (x : Binary64) (num den : Nat) (exponent : Int) : List Decimal :=
  let (n, d) := scaleDown num den exponent
  let near := roundDiv n d
  let far := if near = n / d then near + 1 else n / d
  [near, far].filterMap fun digits =>
    if ofDecimal false digits exponent = x then some ⟨digits, exponent⟩ else none

/-- All digits of `m * 2 ^ (e - 1074)`. -/
def exact (m e : Nat) : Decimal :=
  if e < 1074 then ⟨m * Nat.pow 5 (1074 - e), -(1074 - e : Nat)⟩
  else ⟨m * Nat.pow 2 (e - 1074), 0⟩

/-- The shortest decimal that reads back as the positive number `m * 2 ^ (e - 1074)`. -/
def shortest (m e : Nat) : Decimal :=
  let num := m * Nat.pow 2 e
  let den := Nat.pow 2 1074
  let top := floorLog10 num den
  let grids := (List.range 17).map fun (n : Nat) => top - n
  (grids.findSome? fun g => (onGrid (.finite false m e) num den g).head?).getD (exact m e)

/-- Drops the zeros at the end of a coefficient. -/
def trimZeros : (fuel : Nat) → Decimal → Decimal
  | 0, d => d
  | fuel + 1, d =>
    if d.digits ≠ 0 ∧ d.digits % 10 = 0 then trimZeros fuel ⟨d.digits / 10, d.exponent + 1⟩ else d

/-- The text of a positive decimal. -/
def decimalText (d : Decimal) : List Char :=
  let ds := Nat.toDigits 10 d.digits
  let point : Int := ds.length + d.exponent
  if -4 < point ∧ point ≤ 16 then
    if point ≤ 0 then '0' :: '.' :: List.replicate (-point).toNat '0' ++ ds
    else if (ds.length : Int) ≤ point then
      ds ++ List.replicate (point.toNat - ds.length) '0' ++ ['.', '0']
    else ds.take point.toNat ++ '.' :: ds.drop point.toNat
  else
    let mantissa := match ds with
      | [] => []
      | [d] => [d]
      | d :: rest => d :: '.' :: rest
    let e := (point - 1).natAbs
    let shown := Nat.toDigits 10 e
    mantissa ++ 'e' :: (if point - 1 < 0 then '-' else '+') ::
      (List.replicate (2 - shown.length) '0' ++ shown)

/-- The text of a finite number. -/
def finiteText (negative : Bool) (m e : Nat) : List Char :=
  let body := if m = 0 then ['0', '.', '0']
    else
      let d := shortest m e
      decimalText (trimZeros (decimalLength d.digits) d)
  if negative then '-' :: body else body

end Binary64

end SymbolIndex.Number
