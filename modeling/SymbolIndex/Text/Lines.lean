/-!
# Line ends

`unify` writes every line end as a line feed; `pieces` cuts a text behind its line ends.
-/

namespace SymbolIndex.Text.Lines

/-- Carriage returns, alone or before a line feed, as line feeds. -/
def unify : List Char → List Char
  | [] => []
  | '\r' :: '\n' :: rest => '\n' :: unify rest
  | c :: rest => (if c = '\r' then '\n' else c) :: unify rest

/-- Characters that end a line. -/
def isLineEnd (c : Char) : Bool :=
  (0x0a ≤ c.toNat && c.toNat ≤ 0x0d) || (0x1c ≤ c.toNat && c.toNat ≤ 0x1e) || c.toNat == 0x85 ||
    c.toNat == 0x2028 || c.toNat == 0x2029

/-- Cuts a text behind each line end; `line` holds the characters of the present line, last
first. -/
def cut (line : List Char) : List Char → List (List Char)
  | [] => if line.isEmpty then [] else [line.reverse]
  | '\r' :: '\n' :: rest => ('\n' :: '\r' :: line).reverse :: cut [] rest
  | c :: rest =>
    if isLineEnd c then (c :: line).reverse :: cut [] rest else cut (c :: line) rest

/-- The lines of a text, each with its end. -/
def pieces (s : List Char) : List (List Char) := cut [] s

end SymbolIndex.Text.Lines
