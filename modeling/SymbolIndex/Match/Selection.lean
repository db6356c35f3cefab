/-!
# Selection

The smallest values of a list, found in one pass that keeps no more of them than are asked for.
-/

namespace SymbolIndex.Match

variable {α : Type}

/-- Puts a value into a list in order, behind all that are not larger. -/
def insertBehind (le : α → α → Bool) (a : α) : List α → List α
  | [] => [a]
  | b :: kept => if le b a then b :: insertBehind le a kept else a :: b :: kept

/-- The `n` smallest values in order. Of values that tie, the earlier ones are kept. -/
def smallest (le : α → α → Bool) (n : Nat) (l : List α) : List α :=
  l.foldl (fun kept a => (insertBehind le a kept).take n) []

end SymbolIndex.Match
