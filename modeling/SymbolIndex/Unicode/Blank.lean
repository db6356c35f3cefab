import SymbolIndex.Unicode.Table

/-!
# Blank characters

Characters that separate or surround text: the Unicode white space, and the four information
separators U+001C to U+001F.
-/

namespace SymbolIndex.Unicode

def blanks : Ranges := [(0x09, 0x0d), (0x1c, 0x20), (0x85, 0x85), (0xa0, 0xa0), (0x1680, 0x1680),
  (0x2000, 0x200a), (0x2028, 0x2029), (0x202f, 0x202f), (0x205f, 0x205f), (0x3000, 0x3000)]

def isBlank (c : Char) : Bool := blanks.mem c

/-- Text without the blanks in front. -/
def trimStart (s : List Char) : List Char := s.dropWhile isBlank

/-- Text without the blanks at its end. -/
def trimEnd (s : List Char) : List Char := (s.reverse.dropWhile isBlank).reverse

/-- Text without the blanks around it. -/
def trim (s : List Char) : List Char := trimEnd (trimStart s)

end SymbolIndex.Unicode
