import SymbolIndex.Text.Hex
import SymbolIndex.Text.Utf8

/-!
# Escaped keys

In search data files a key is written with letters and digits as they are, in lower case, and
each other byte of its UTF-8 form as `_` and two lower-case hexadecimal digits.
-/

namespace SymbolIndex.Key

def escapeByte (b : UInt8) : List Char := '_' :: Text.hex 2 b.toNat

def escapeChar (c : Char) : List Char :=
  if c.isAlphanum then [c.toLower] else (Text.Utf8.encodeChar c).flatMap escapeByte

def escape (key : String) : String := String.ofList (key.toList.flatMap escapeChar)

/-- The byte that two lower-case hexadecimal digits stand for. -/
def byte? (a b : Char) : Option UInt8 :=
  if a.isUpper || b.isUpper then none
  else do return .ofNat ((← Text.hexValue? a) * 16 + (← Text.hexValue? b))

/-- The bytes of an escaped key. A `_` that begins no escape stands for itself. -/
def unescapeBytes : List Char → List UInt8
  | [] => []
  | '_' :: a :: b :: rest =>
    match byte? a b with
    | some byte => byte :: unescapeBytes rest
    | none => Text.Utf8.encodeChar '_' ++ unescapeBytes (a :: b :: rest)
  | c :: rest => Text.Utf8.encodeChar c ++ unescapeBytes rest

/-- The key written as an escaped key; ill-formed bytes become U+FFFD. A text has no surrogates, so
each of its characters has bytes. -/
def unescape (escaped : String) : String :=
  String.ofList (Text.Utf8.decodeLossy (unescapeBytes escaped.toList))

/-- The first surrogates of an escaped key. Their place counts from the escape in front of them,
since the key is encoded from one escape to the next. -/
def unencodable? : (place : Nat) → List Text.Utf8.CodePoint → Option Text.Utf8.Unencodable
  | _, [] => none
  | place, .surrogate code :: rest =>
    some ⟨code, place, 1 + (rest.takeWhile Text.Utf8.CodePoint.isSurrogate).length⟩
  | place, .char '_' :: .char a :: .char b :: rest =>
    match byte? a b with
    | some _ => unencodable? 0 rest
    | none => unencodable? (place + 1) (.char a :: .char b :: rest)
  | place, .char _ :: rest => unencodable? (place + 1) rest

end SymbolIndex.Key
