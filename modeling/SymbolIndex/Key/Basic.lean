import SymbolIndex.Unicode.Canonical
import SymbolIndex.Unicode.CaseFolding

/-!
# Search keys

The key of a name is what is left of it when compatibility characters are taken apart, case is
folded and everything outside the key alphabet is dropped. Names and queries go through the same
function, so both always use the same alphabet.
-/

namespace SymbolIndex.Key

/-- The key alphabet: lower-case letters, digits, `_` and `~`. -/
def isKeyChar (c : Char) : Bool := c.isLower || c.isDigit || c == '_' || c == '~'

def normalizeChars (s : List Char) : List Char :=
  (Unicode.fold (Unicode.nfkd s)).filter isKeyChar

def normalize (text : String) : String := String.ofList (normalizeChars text.toList)

/-- The text by which keys are sorted. -/
def sortText (key : String) : String := String.ofList (Unicode.fold key.toList)

end SymbolIndex.Key
