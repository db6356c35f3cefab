import SymbolIndex.Text.Hex

/-!
# Text that is safe for a terminal

Control characters other than line ends and tabs are written as escapes, so that text from
elsewhere cannot ring a bell or move the cursor.
-/

namespace SymbolIndex.Terminal

/-- Runs of control characters that a terminal acts on. -/
def controlRanges : List (Nat × Nat) :=
  [(0x00, 0x08), (0x0b, 0x0c), (0x0e, 0x1f), (0x7f, 0x9f)]

def isControl (c : Char) : Bool :=
  controlRanges.any fun (lo, hi) => lo ≤ c.toNat && c.toNat ≤ hi

def sanitizeChar (c : Char) : List Char :=
  if c = '\n' ∨ c = '\r' ∨ c = '\t' then [c]
  else if c.toNat < 32 ∨ c.toNat = 127 ∨ (0x80 ≤ c.toNat ∧ c.toNat ≤ 0x9f) then
    '\\' :: 'x' :: Text.hex 2 c.toNat
  else [c]

/-- Text without a control character is returned as it is. -/
def sanitizeChars (s : List Char) : List Char :=
  if s.any isControl then s.flatMap sanitizeChar else s

def sanitize (text : String) : String := String.ofList (sanitizeChars text.toList)

end SymbolIndex.Terminal
