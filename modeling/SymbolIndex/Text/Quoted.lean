import SymbolIndex.Text.Hex
import SymbolIndex.Unicode.Printable

/-!
# Quoted text in messages

Text that a message repeats stands in single quotes, or in double quotes when it holds a single
quote and no double quote. The quote in use, the backslash and unprintable characters are
written as escapes.
-/

namespace SymbolIndex.Text

def escapeUnprintable (c : Char) : List Char :=
  if c.toNat < 0x100 then '\\' :: 'x' :: hex 2 c.toNat
  else if c.toNat < 0x10000 then '\\' :: 'u' :: hex 4 c.toNat
  else '\\' :: 'U' :: hex 8 c.toNat

def quoteChar (quote c : Char) : List Char :=
  if c = quote ∨ c = '\\' then ['\\', c]
  else if c = '\n' then ['\\', 'n']
  else if c = '\r' then ['\\', 'r']
  else if c = '\t' then ['\\', 't']
  else if Unicode.isPrintable c then [c]
  else escapeUnprintable c

def quote (s : List Char) : List Char :=
  let mark := if '\'' ∈ s ∧ '"' ∉ s then '"' else '\''
  mark :: s.flatMap (quoteChar mark) ++ [mark]

def quoted (s : String) : String := String.ofList (quote s.toList)

end SymbolIndex.Text
