import Std.Data.HashMap
import SymbolIndex.CharRef.Names
import SymbolIndex.Text.Hex
import SymbolIndex.Text.Numeral

/-!
# Character references

`escape` writes `&`, `<` and `>` as references; `unescape` replaces the references of a text by
the characters they stand for, by the rules of HTML: a name may lack its `;` where the table has
it without, the longest name counts, and numbers in the range of the C1 controls mean the
characters of code page 1252.
-/

namespace SymbolIndex.CharRef

/-! ### Escaping -/

def escapeChar (c : Char) : List Char :=
  if c = '&' then ['&', 'a', 'm', 'p', ';']
  else if c = '<' then ['&', 'l', 't', ';']
  else if c = '>' then ['&', 'g', 't', ';']
  else [c]

def escape (s : List Char) : List Char := s.flatMap escapeChar

/-! ### Numbers -/

/-- Code page 1252 from 0x80 to 0x9f; its five gaps are the controls themselves. -/
def codePage1252 : List Nat := [
  0x20ac, 0x81, 0x201a, 0x192, 0x201e, 0x2026, 0x2020, 0x2021, 0x2c6, 0x2030, 0x160, 0x2039, 0x152,
  0x8d, 0x17d, 0x8f, 0x90, 0x2018, 0x2019, 0x201c, 0x201d, 0x2022, 0x2013, 0x2014, 0x2dc, 0x2122,
  0x161, 0x203a, 0x153, 0x9d, 0x17e, 0x178]

/-- Controls and code points that are no characters, which a reference cannot give. -/
def isForbidden (n : Nat) : Bool :=
  (0x1 ≤ n && n ≤ 0x8) || n == 0xb || (0xe ≤ n && n ≤ 0x1f) || n == 0x7f ||
    (0xfdd0 ≤ n && n ≤ 0xfdef) || 0xfffe ≤ n % 0x10000

/-- What a reference by number stands for. -/
def numbered (n : Nat) : List Char :=
  if n = 0 then ['\uFFFD']
  else if 0x80 ≤ n ∧ n ≤ 0x9f then [Char.ofNat (codePage1252.getD (n - 0x80) 0)]
  else if (0xd800 ≤ n ∧ n ≤ 0xdfff) ∨ 0x10ffff < n then ['\uFFFD']
  else if isForbidden n then []
  else [Char.ofNat n]

/-! ### Names -/

/-- An item of a row of the name table: a name, `=`, and code points joined by `+`. -/
def readName (item : String) : String × List Char :=
  match item.splitOn "=" with
  | [name, codes] =>
    let code (s : String) : Char :=
      Char.ofNat (s.foldl (fun n c => n * 16 + (Text.hexValue? c).getD 0) 0)
    (name, (codes.splitOn "+").map code)
  | _ => (item, [])

def nameTable : Std.HashMap String (List Char) :=
  nameRows.foldl (fun t row => t.insertMany ((row.splitOn " ").map readName)) ∅

/-- What a name stands for; the names that `escape` writes are known without the table. -/
def named? (name : List Char) : Option (List Char) :=
  if name = ['a', 'm', 'p', ';'] then some ['&']
  else if name = ['l', 't', ';'] then some ['<']
  else if name = ['g', 't', ';'] then some ['>']
  else nameTable[String.ofList name]?

/-- The longest of the first parts of a name, of at most `n` characters and at least two, that is
a name, and what is left. -/
def longestName? (name : List Char) : (n : Nat) → Option (List Char)
  | 0 | 1 => none
  | n + 2 =>
    match named? (name.take (n + 2)) with
    | some image => some (image ++ name.drop (n + 2))
    | none => longestName? name (n + 1)

/-- The text that stands for a name and for what follows it within the reference. -/
def namedText (name : List Char) : List Char :=
  match named? name with
  | some image => image
  | none => (longestName? name (name.length - 1)).getD ('&' :: name)

/-! ### References in a text -/

/-- Characters that a name may consist of. -/
def isNameChar (c : Char) : Bool :=
  c != '\t' && c != '\n' && c != '\x0c' && c != ' ' && c != '<' && c != '&' && c != '#' && c != ';'

def isHex (c : Char) : Bool := (Text.hexValue? c).isSome

/-- One if a semicolon comes after the first `n` characters. -/
def semicolon (s : List Char) (n : Nat) : Nat := if s[n]? = some ';' then 1 else 0

/-- A numeral of too many digits. -/
structure HugeNumeral where
  digits : Nat
  deriving DecidableEq, Repr

/-- The reference that a text behind `&` begins with: how many characters it has, and what it
stands for. -/
def reference? (s : List Char) : Option (Nat × Except HugeNumeral (List Char)) :=
  match s with
  | '#' :: body =>
    let ds := body.takeWhile Char.isDigit
    if ds.isEmpty then
      match body with
      | x :: body' =>
        let hs := body'.takeWhile isHex
        if (x = 'x' ∨ x = 'X') ∧ hs ≠ [] then
          let n := hs.foldl (fun n c => n * 16 + (Text.hexValue? c).getD 0) 0
          some (2 + hs.length + semicolon s (2 + hs.length), .ok (numbered n))
        else none
      | [] => none
    else
      let taken := 1 + ds.length + semicolon s (1 + ds.length)
      if Text.Numeral.maxDigits < ds.length then some (taken, .error ⟨ds.length⟩)
      else some (taken, .ok (numbered (Nat.ofDigitChars 10 ds 0)))
  | _ =>
    let run := (s.take 32).takeWhile isNameChar
    if run.isEmpty then none
    else
      let taken := run.length + semicolon s run.length
      some (taken, .ok (namedText (s.take taken)))

/-- Replaces the references of a text. -/
def unescape (s : List Char) : Except HugeNumeral (List Char) :=
  match s with
  | [] => .ok []
  | c :: rest =>
    if c = '&' then
      match reference? rest with
      | none => do return c :: (← unescape rest)
      | some (taken, image) => do return (← image) ++ (← unescape (rest.drop taken))
    else do return c :: (← unescape rest)
termination_by s.length
decreasing_by all_goals simp only [List.length_drop, List.length_cons]; omega

end SymbolIndex.CharRef
