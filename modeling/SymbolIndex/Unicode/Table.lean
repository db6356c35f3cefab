/-!
# Tables over code points

A table says, for some characters, which characters they are mapped to. Each mapping is one
*entry*: a number whose digits in base `2 ^ 24`, most significant first, are the character's
code point and then the code points of its image, so that `0xc0000041000300` maps U+00C0 to
U+0041 U+0300. Entries stand in rows of 64 code points.

A *range list* is a set of code points written as inclusive bounds.
-/

namespace SymbolIndex.Unicode

/-- The base-`2 ^ 24` digits of a number of at most `fuel` digits, in front of `low`. -/
def entryDigits : (fuel : Nat) → Nat → List Nat → List Nat
  | 0, _, low => low
  | fuel + 1, n, low =>
    if n = 0 then low else entryDigits fuel (n / 0x1000000) (n % 0x1000000 :: low)

/-- The image an entry gives to `code`, if it is the entry of `code`. -/
def entryImage? (code entry : Nat) : Option (List Char) :=
  match entryDigits 24 entry [] with
  | [] => none
  | d :: image => if d = code then some (image.map Char.ofNat) else none

/-- Rows of entries, each with its number: row `n` holds the code points from `64 * n`. -/
abbrev Table := List (Nat × List Nat)

def Table.image? (t : Table) (c : Char) : Option (List Char) :=
  (t.find? fun row => row.1 == c.toNat / 64).bind fun row => row.2.findSome? (entryImage? c.toNat)

/-- Inclusive bounds of runs of code points. -/
abbrev Ranges := List (Nat × Nat)

def Ranges.mem (r : Ranges) (c : Char) : Bool :=
  r.any fun (lo, hi) => lo ≤ c.toNat && c.toNat ≤ hi

end SymbolIndex.Unicode
