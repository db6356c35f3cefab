import SymbolIndex.Json.Basic
import SymbolIndex.Text.Hex
import SymbolIndex.Text.Numeral
import SymbolIndex.Text.Utf8

/-!
# Reading JSON

`Json.read` reads one value with blanks around it. Beyond the standard it takes `NaN`,
`Infinity` and `-Infinity`; of several members with one name it keeps the last value. A text
that is no value is refused with the place where reading stopped, and so is a whole number of
more than `Numeral.maxDigits` digits. Each function below returns what it read and the text
behind it.

Values hold texts, so a surrogate that an escape puts on its own is read as U+FFFD; `itemTexts` and
`headPoints` go back to the document for what stood there. Values may be nested to any depth: the
limit that an interpreter sets to its recursion is left out.
-/

namespace SymbolIndex.Json

/-- What is wrong at the place where reading stops. -/
inductive Problem where
  | expectingValue
  | expectingComma
  | expectingColon
  | expectingName
  | unterminatedString
  | controlCharacter
  | badEscape
  | badCodeEscape
  | extraData
  | byteOrderMark
  deriving DecidableEq, Repr

def Problem.message : Problem → String
  | .expectingValue => "Expecting value"
  | .expectingComma => "Expecting ',' delimiter"
  | .expectingColon => "Expecting ':' delimiter"
  | .expectingName => "Expecting property name enclosed in double quotes"
  | .unterminatedString => "Unterminated string starting at"
  | .controlCharacter => "Invalid control character at"
  | .badEscape => "Invalid \\escape"
  | .badCodeEscape => "Invalid \\uXXXX escape"
  | .extraData => "Extra data"
  | .byteOrderMark => "Unexpected UTF-8 BOM (decode using utf-8-sig)"

/-- Why a text cannot be read. -/
inductive ReadError where
  | malformed (problem : Problem) (line column offset : Nat)
  | hugeInteger (digits : Nat)
  deriving DecidableEq, Repr

def ReadError.message : ReadError → String
  | .malformed p line column offset =>
    p.message ++ s!": line {line} column {column} (char {offset})"
  | .hugeInteger digits =>
    s!"Exceeds the limit ({Text.Numeral.maxDigits} digits) for integer string conversion: " ++
      s!"value has {digits} digits; use sys.set_int_max_str_digits() to increase the limit"

/-- Whether the text is at fault, and not a number in it too long. -/
def ReadError.isMalformed : ReadError → Bool
  | .malformed .. => true
  | .hugeInteger _ => false

/-- A reason to stop; a place is the number of characters from it to the end of the text. -/
inductive Stop where
  | at (problem : Problem) (left : Nat)
  | hugeInteger (digits : Nat)

def stopAt {α : Type} (problem : Problem) (rest : List Char) : Except Stop α :=
  .error (.at problem rest.length)

def isSpace (c : Char) : Bool := c = ' ' || c = '\t' || c = '\n' || c = '\r'

def skipSpace (s : List Char) : List Char := s.dropWhile isSpace

/-! ### Strings -/

/-- The value of an escape of one character. -/
def simpleEscape? : Char → Option Char
  | '"' => some '"'
  | '\\' => some '\\'
  | '/' => some '/'
  | 'b' => some '\x08'
  | 'f' => some '\x0c'
  | 'n' => some '\n'
  | 'r' => some '\r'
  | 't' => some '\t'
  | _ => none

def codeUnit? (a b c d : Char) : Option Nat := do
  return (((← Text.hexValue? a) * 16 + (← Text.hexValue? b)) * 16 + (← Text.hexValue? c)) * 16 +
    (← Text.hexValue? d)

/-- The code units of a string, up to its closing quote; `whole` is the text from the opening
quote on. A code escape needs a character behind it. -/
def stringUnits (whole : List Char) : List Char → Except Stop (List Nat × List Char)
  | [] => stopAt .unterminatedString whole
  | '"' :: rest => .ok ([], rest)
  | '\\' :: 'u' :: a :: b :: c :: d :: rest =>
    match rest, codeUnit? a b c d with
    | _ :: _, some unit => do
      let (units, rest') ← stringUnits whole rest
      return (unit :: units, rest')
    | _, _ => stopAt .badCodeEscape ('u' :: a :: b :: c :: d :: rest)
  | '\\' :: 'u' :: rest => stopAt .badCodeEscape ('u' :: rest)
  | '\\' :: e :: rest =>
    match simpleEscape? e with
    | some c => do
      let (units, rest') ← stringUnits whole rest
      return (c.toNat :: units, rest')
    | none => stopAt .badEscape ('\\' :: e :: rest)
  | ['\\'] => stopAt .unterminatedString whole
  | c :: rest =>
    if c.toNat < 0x20 then stopAt .controlCharacter (c :: rest)
    else do
      let (units, rest') ← stringUnits whole rest
      return (c.toNat :: units, rest')

/-- A code unit on its own. -/
def unitPoint (unit : Nat) : Text.Utf8.CodePoint :=
  if 0xd800 ≤ unit ∧ unit < 0xe000 then .surrogate unit else .char (Char.ofNat unit)

/-- The code points of a string: each leading surrogate is joined with the trailing one behind
it. -/
def joinUnits : List Nat → List Text.Utf8.CodePoint
  | [] => []
  | [unit] => [unitPoint unit]
  | high :: low :: rest =>
    if 0xd800 ≤ high ∧ high < 0xdc00 ∧ 0xdc00 ≤ low ∧ low < 0xe000 then
      .char (Char.ofNat (0x10000 + (high - 0xd800) * 0x400 + (low - 0xdc00))) :: joinUnits rest
    else unitPoint high :: joinUnits (low :: rest)

/-- The code points of a string, from behind its opening quote. -/
def stringPoints (rest : List Char) : Except Stop (List Text.Utf8.CodePoint × List Char) := do
  let (units, rest') ← stringUnits ('"' :: rest) rest
  return (joinUnits units, rest')

/-- A string, from behind its opening quote. -/
def string (rest : List Char) : Except Stop (String × List Char) := do
  let (points, rest') ← stringPoints rest
  return (String.ofList (points.map Text.Utf8.CodePoint.toChar), rest')

/-! ### Numbers -/

/-- The digits at the head of a text, and the text behind them. -/
def digits (s : List Char) : List Char × List Char :=
  (s.takeWhile Char.isDigit, s.dropWhile Char.isDigit)

/-- The whole part of a number: a zero, or digits that start with none. -/
def wholePart? : List Char → Option (List Char × List Char)
  | [] => none
  | '0' :: rest => some (['0'], rest)
  | c :: rest => if c.isDigit then some (digits (c :: rest)) else none

/-- The digits of a fraction, if there is one. -/
def fraction : List Char → List Char × List Char
  | '.' :: rest => if (digits rest).1.isEmpty then ([], '.' :: rest) else digits rest
  | s => ([], s)

def signed : List Char → Bool × List Char
  | '-' :: rest => (true, rest)
  | '+' :: rest => (false, rest)
  | rest => (false, rest)

/-- The exponent of a number, if it has one. -/
def exponent? : List Char → Option (Int × List Char)
  | [] => none
  | e :: rest =>
    if e = 'e' ∨ e = 'E' then
      let (negative, body) := signed rest
      let (ds, rest') := digits body
      if ds.isEmpty then none
      else
        let n : Int := Nat.ofDigitChars 10 ds 0
        some (if negative then -n else n, rest')
    else none

/-- A number, from behind its sign. -/
def number? (negative : Bool) (s : List Char) : Option (Except Stop (Json × List Char)) := do
  let (whole, rest) ← wholePart? s
  let (frac, rest') := fraction rest
  let coefficient := Nat.ofDigitChars 10 (whole ++ frac) 0
  match exponent? rest' with
  | some (e, rest'') =>
    return .ok (.float (.ofDecimal negative coefficient (e - frac.length)), rest'')
  | none =>
    if frac.isEmpty then
      if Text.Numeral.maxDigits < whole.length then return .error (.hugeInteger whole.length)
      else return .ok (.int (if negative then -coefficient else coefficient), rest')
    else return .ok (.float (.ofDecimal negative coefficient (-frac.length)), rest')

/-! ### Values -/

/-- A value that is neither string, array nor object. -/
def scalar (s : List Char) : Except Stop (Json × List Char) :=
  match s with
  | 'n' :: 'u' :: 'l' :: 'l' :: rest => .ok (.null, rest)
  | 't' :: 'r' :: 'u' :: 'e' :: rest => .ok (.bool true, rest)
  | 'f' :: 'a' :: 'l' :: 's' :: 'e' :: rest => .ok (.bool false, rest)
  | 'N' :: 'a' :: 'N' :: rest => .ok (.float .nan, rest)
  | 'I' :: 'n' :: 'f' :: 'i' :: 'n' :: 'i' :: 't' :: 'y' :: rest =>
    .ok (.float (.infinite false), rest)
  | '-' :: 'I' :: 'n' :: 'f' :: 'i' :: 'n' :: 'i' :: 't' :: 'y' :: rest =>
    .ok (.float (.infinite true), rest)
  | '-' :: rest => (number? true rest).getD (stopAt .expectingValue s)
  | _ => (number? false s).getD (stopAt .expectingValue s)

mutual

/-- A value. -/
def value : (fuel : Nat) → List Char → Except Stop (Json × List Char)
  | 0, s => stopAt .expectingValue s
  | fuel + 1, s =>
    match s with
    | '"' :: rest => do
      let (v, rest') ← string rest
      return (.str v, rest')
    | '[' :: rest =>
      match skipSpace rest with
      | ']' :: rest' => .ok (.arr [], rest')
      | rest' => do
        let (vs, rest'') ← items fuel rest'
        return (.arr vs, rest'')
    | '{' :: rest =>
      match skipSpace rest with
      | '}' :: rest' => .ok (.obj [], rest')
      | rest' => do
        let (ms, rest'') ← members fuel rest'
        return (.obj (Members.ofList ms), rest'')
    | _ => scalar s

/-- Values up to the end of an array, at least one. -/
def items : (fuel : Nat) → List Char → Except Stop (List Json × List Char)
  | 0, s => stopAt .expectingValue s
  | fuel + 1, s => do
    let (v, rest) ← value fuel s
    match skipSpace rest with
    | ']' :: rest' => return ([v], rest')
    | ',' :: rest' =>
      let (vs, rest'') ← items fuel (skipSpace rest')
      return (v :: vs, rest'')
    | rest' => stopAt .expectingComma rest'

/-- Members up to the end of an object, at least one. -/
def members : (fuel : Nat) → List Char → Except Stop (List (String × Json) × List Char)
  | 0, s => stopAt .expectingName s
  | fuel + 1, s =>
    match s with
    | '"' :: rest => do
      let (name, rest') ← string rest
      match skipSpace rest' with
      | ':' :: rest'' =>
        let (v, rest3) ← value fuel (skipSpace rest'')
        match skipSpace rest3 with
        | '}' :: rest4 => return ([(name, v)], rest4)
        | ',' :: rest4 =>
          let (ms, rest5) ← members fuel (skipSpace rest4)
          return ((name, v) :: ms, rest5)
        | rest4 => stopAt .expectingComma rest4
      | rest'' => stopAt .expectingColon rest''
    | _ => stopAt .expectingName s

end

/-! ### The text of items -/

/-- The text from each item of an array on, of which there is at least one. -/
def itemTexts : (fuel : Nat) → List Char → List (List Char)
  | 0, _ => []
  | fuel + 1, s =>
    s :: match value fuel s with
      | .ok (_, rest) =>
        match skipSpace rest with
        | ',' :: rest' => itemTexts fuel (skipSpace rest')
        | _ => []
      | .error _ => []

/-- The text from each item of the array that a document is. -/
def arrayTexts (s : List Char) : List (List Char) :=
  match skipSpace s with
  | '[' :: rest =>
    match skipSpace rest with
    | ']' :: _ => []
    | rest' => itemTexts (2 * s.length + 1) rest'
  | _ => []

/-- The code points of the string that an array begins with; none if it begins with another
value. -/
def headPoints : List Char → List Text.Utf8.CodePoint
  | '[' :: rest =>
    match skipSpace rest with
    | '"' :: rest' =>
      match stringPoints rest' with
      | .ok (points, _) => points
      | .error _ => []
    | _ => []
  | _ => []

/-! ### Documents -/

/-- One value with blanks around it and nothing else. -/
def document (s : List Char) : Except Stop Json := do
  let (v, rest) ← value (2 * s.length + 2) (skipSpace s)
  match skipSpace rest with
  | [] => return v
  | rest' => .error (.at .extraData rest'.length)

/-- The line and the column, from 1, of a place given by the text in front of it. -/
def lineAndColumn (before : List Char) : Nat × Nat :=
  (before.count '\n' + 1, (before.reverse.takeWhile (· ≠ '\n')).length + 1)

def Stop.toError (s : List Char) : Stop → ReadError
  | .at problem left =>
    let (line, column) := lineAndColumn (s.take (s.length - left))
    .malformed problem line column (s.length - left)
  | .hugeInteger digits => .hugeInteger digits

def read (s : List Char) : Except ReadError Json :=
  match s with
  | '\uFEFF' :: _ => .error (.malformed .byteOrderMark 1 1 0)
  | _ => (document s).mapError (Stop.toError s)

end SymbolIndex.Json
