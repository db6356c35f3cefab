import SymbolIndex.Json.Printer
import SymbolIndex.Json.Reader

/-!
# Indented JSON

JSON is shown with one item a line. The numbers keep their value, and so do the texts; the members
of an object are put in the order of their names.
-/

namespace SymbolIndex.Terminal

/-- A document with one item a line. -/
def prettyDocument (text : String) : Except Json.ReadError String := do
  return String.ofList (Json.pretty false (← Json.read text.toList) ++ ['\n'])

end SymbolIndex.Terminal
