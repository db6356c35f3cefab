import SymbolIndex.Unicode.CombiningClass
import SymbolIndex.Unicode.Decomposition

/-!
# Compatibility normal form

Text taken apart (`decompose`) and with the marks on each base character in canonical order:
normalization form KD. Canonical order sorts each run of marks by combining class and keeps the
order of marks of one class.
-/

namespace SymbolIndex.Unicode

/-- Puts a character behind a text in canonical order whose characters are given last first. -/
def insertMark (c : Char) : List Char → List Char
  | [] => [c]
  | d :: s =>
    if 0 < combiningClass c ∧ combiningClass c < combiningClass d then d :: insertMark c s
    else c :: d :: s

/-- Sorts each run of marks by combining class. -/
def canonicalOrder (s : List Char) : List Char :=
  (s.foldl (fun done c => insertMark c done) []).reverse

/-- Normalization form KD. -/
def nfkd (s : List Char) : List Char := canonicalOrder (s.flatMap decompose)

end SymbolIndex.Unicode
