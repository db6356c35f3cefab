import SymbolIndex.Unicode.Blank
import SymbolIndex.Unicode.Digit

/-!
# Whole numbers written by hand

A numeral is a run of decimal digits of any script, in which single underscores may separate
digits, with an optional sign in front and blanks around it. The information separators do not
count as blanks here. Numerals of more than `maxDigits` digits are refused.
-/

namespace SymbolIndex.Text.Numeral

def maxDigits : Nat := 4300

/-- Blanks that may surround a numeral. -/
def isMargin (c : Char) : Bool := Unicode.isBlank c && !(0x1c ≤ c.toNat && c.toNat ≤ 0x1f)

/-- The values of digits that single underscores may separate. -/
def digitValues? : List Char → Option (List Nat)
  | [] => none
  | [c] => (Unicode.digitValue? c).map ([·])
  | c :: '_' :: rest => do return (← Unicode.digitValue? c) :: (← digitValues? rest)
  | c :: rest => do return (← Unicode.digitValue? c) :: (← digitValues? rest)

def unsigned? (s : List Char) : Option Nat := do
  let ds ← digitValues? s
  if ds.length ≤ maxDigits then some (ds.foldl (fun n d => 10 * n + d) 0) else none

def trimMargin (s : List Char) : List Char :=
  ((s.dropWhile isMargin).reverse.dropWhile isMargin).reverse

def read? (s : List Char) : Option Int :=
  match trimMargin s with
  | '+' :: rest => (unsigned? rest).map (Int.ofNat ·)
  | '-' :: rest => (unsigned? rest).map (-Int.ofNat ·)
  | rest => (unsigned? rest).map (Int.ofNat ·)

end SymbolIndex.Text.Numeral
