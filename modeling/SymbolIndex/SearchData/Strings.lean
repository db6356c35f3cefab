import SymbolIndex.Json.Printer

/-!
# Single-quoted strings

A string in single quotes holds ordinary characters and pairs of a backslash and the character
it stands for. `requote` turns every such string of a text into a JSON string and leaves the text
between the strings alone.
-/

namespace SymbolIndex.SearchData

/-- A string begun: its value so far and its text so far, both last character first. -/
structure Begun where
  value : List Char
  text : List Char

/-- The text between strings, or inside one begun. A string without an end is left alone. -/
def requoteFrom : Option Begun → List Char → List Char
  | none, [] => []
  | none, c :: rest =>
    if c = '\'' then requoteFrom (some ⟨[], []⟩) rest else c :: requoteFrom none rest
  | some b, [] => '\'' :: b.text.reverse
  | some b, ['\\'] => '\'' :: ('\\' :: b.text).reverse
  | some b, '\\' :: c :: rest => requoteFrom (some ⟨c :: b.value, c :: '\\' :: b.text⟩) rest
  | some b, c :: rest =>
    if c = '\'' then Json.stringText true b.value.reverse ++ requoteFrom none rest
    else requoteFrom (some ⟨c :: b.value, c :: b.text⟩) rest

def requote (s : List Char) : List Char := requoteFrom none s

/-- A character inside a string. -/
def quoteChar (c : Char) : List Char := if c = '\'' ∨ c = '\\' then ['\\', c] else [c]

/-- A value in single quotes. -/
def quote (value : List Char) : List Char := '\'' :: value.flatMap quoteChar ++ ['\'']

end SymbolIndex.SearchData
