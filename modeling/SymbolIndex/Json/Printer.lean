import SymbolIndex.Json.Basic
import SymbolIndex.Number.Shortest
import SymbolIndex.Text.Hex
import SymbolIndex.Text.Quoted

/-!
# Writing JSON

Members are written in the order of their names. `compact` writes no blanks, `pretty` one item a
line with two spaces of indent for each level. Strings keep characters outside ASCII, or, with
`ascii`, write them as code escapes. `literal` is the form of a value in messages.
-/

namespace SymbolIndex.Json

def intText (n : Int) : List Char :=
  if n < 0 then '-' :: Nat.toDigits 10 n.natAbs else Nat.toDigits 10 n.natAbs

def codeEscape (unit : Nat) : List Char := '\\' :: 'u' :: Text.hex 4 unit

/-- How a character stands in a string. -/
def escapeChar (ascii : Bool) (c : Char) : List Char :=
  if c = '"' then ['\\', '"']
  else if c = '\\' then ['\\', '\\']
  else if c = '\n' then ['\\', 'n']
  else if c = '\r' then ['\\', 'r']
  else if c = '\t' then ['\\', 't']
  else if c = '\x08' then ['\\', 'b']
  else if c = '\x0c' then ['\\', 'f']
  else if c.toNat < 0x20 then codeEscape c.toNat
  else if ascii && 0x7f ≤ c.toNat then
    if c.toNat < 0x10000 then codeEscape c.toNat
    else
      codeEscape (0xd800 + (c.toNat - 0x10000) / 0x400) ++
        codeEscape (0xdc00 + (c.toNat - 0x10000) % 0x400)
  else [c]

def stringText (ascii : Bool) (s : List Char) : List Char :=
  '"' :: s.flatMap (escapeChar ascii) ++ ['"']

def floatText : Number.Binary64 → List Char
  | .finite negative m e => Number.Binary64.finiteText negative m e
  | .infinite false => "Infinity".toList
  | .infinite true => "-Infinity".toList
  | .nan => "NaN".toList

def boolText (b : Bool) : List Char := if b then "true".toList else "false".toList

/-- Written members in the order of their names. -/
def sortMembers (ms : List (String × List Char)) : List (String × List Char) :=
  ms.mergeSort fun a b => decide (a.1 ≤ b.1)

/-! ### One line -/

mutual

def compact : Json → List Char
  | .null => "null".toList
  | .bool b => boolText b
  | .int n => intText n
  | .float x => floatText x
  | .str s => stringText false s.toList
  | .arr vs => '[' :: [','].intercalate (compactItems vs) ++ [']']
  | .obj ms =>
    '{' :: [','].intercalate ((sortMembers (compactMembers ms)).map fun m =>
      stringText false m.1.toList ++ ':' :: m.2) ++ ['}']

def compactItems : List Json → List (List Char)
  | [] => []
  | v :: vs => compact v :: compactItems vs

def compactMembers : List (String × Json) → List (String × List Char)
  | [] => []
  | (name, v) :: ms => (name, compact v) :: compactMembers ms

end

/-! ### Indented -/

/-- A line end and the indent of a level. -/
def newLine (level : Nat) : List Char := '\n' :: List.replicate (2 * level) ' '

/-- Brackets around parts, one a line at the level inside; nothing between them if there are no
parts. -/
def block (opening closing : Char) (level : Nat) (parts : List (List Char)) : List Char :=
  if parts.isEmpty then [opening, closing]
  else
    opening :: newLine (level + 1) ++ (',' :: newLine (level + 1)).intercalate parts ++
      newLine level ++ [closing]

mutual

def prettyAt (ascii : Bool) (level : Nat) : Json → List Char
  | .null => "null".toList
  | .bool b => boolText b
  | .int n => intText n
  | .float x => floatText x
  | .str s => stringText ascii s.toList
  | .arr vs => block '[' ']' level (prettyItems ascii (level + 1) vs)
  | .obj ms =>
    block '{' '}' level ((sortMembers (prettyMembers ascii (level + 1) ms)).map fun m =>
      stringText ascii m.1.toList ++ ':' :: ' ' :: m.2)

def prettyItems (ascii : Bool) (level : Nat) : List Json → List (List Char)
  | [] => []
  | v :: vs => prettyAt ascii level v :: prettyItems ascii level vs

def prettyMembers (ascii : Bool) (level : Nat) :
    List (String × Json) → List (String × List Char)
  | [] => []
  | (name, v) :: ms => (name, prettyAt ascii level v) :: prettyMembers ascii level ms

end

def pretty (ascii : Bool) (v : Json) : List Char := prettyAt ascii 0 v

/-! ### In messages -/

def floatLiteral : Number.Binary64 → List Char
  | .infinite false => "inf".toList
  | .infinite true => "-inf".toList
  | .nan => "nan".toList
  | x => floatText x

mutual

def literalText : Json → List Char
  | .null => "None".toList
  | .bool b => if b then "True".toList else "False".toList
  | .int n => intText n
  | .float x => floatLiteral x
  | .str s => Text.quote s.toList
  | .arr vs => '[' :: [',', ' '].intercalate (literalItems vs) ++ [']']
  | .obj ms => '{' :: [',', ' '].intercalate (literalMembers ms) ++ ['}']

def literalItems : List Json → List (List Char)
  | [] => []
  | v :: vs => literalText v :: literalItems vs

def literalMembers : List (String × Json) → List (List Char)
  | [] => []
  | (name, v) :: ms =>
    (Text.quote name.toList ++ ':' :: ' ' :: literalText v) :: literalMembers ms

end

/-- A value as messages show it. -/
def literal (v : Json) : String := String.ofList (literalText v)

end SymbolIndex.Json
