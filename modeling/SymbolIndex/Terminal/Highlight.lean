import SymbolIndex.Json.Reader
import SymbolIndex.Text.Lines

/-!
# Highlighted JSON

How the outer layer colours JSON for a terminal; no command depends on it. The text is cut into
tokens, and each line of a coloured token is set between an escape sequence for its colour and one
that resets it.
-/

namespace SymbolIndex.Terminal

/-! ### Tokens -/

inductive TokenKind where
  | blank
  | string
  | name
  | number
  | word
  | punctuation
  | error
  deriving DecidableEq, Repr

structure Token where
  kind : TokenKind
  text : List Char
  deriving DecidableEq, Repr

def isNumberStart (c : Char) : Bool := c.isDigit || c == '-'

def isNumberChar (c : Char) : Bool := c.isDigit || "-.eE+".toList.contains c

/-- The letters of `true`, `false` and `null`. -/
def isWordChar (c : Char) : Bool := "truefalsn".toList.contains c

def isWordStart (c : Char) : Bool := "tfn".toList.contains c

def isPunctuation (c : Char) : Bool := ['\x7b', '\x7d', '[', ']', ',', ':'].contains c

/-- The length of the string that a text behind a quote begins with, its closing quote included;
none if it has no end. -/
def stringLength? : List Char → Option Nat
  | [] => none
  | ['\\'] => none
  | '\\' :: _ :: rest => (stringLength? rest).map (· + 2)
  | c :: rest => if c = '"' then some 1 else (stringLength? rest).map (· + 1)

/-- The kind and the length of the token that a text begins with. -/
def tokenHead (c : Char) (rest : List Char) : TokenKind × Nat :=
  let run (p : Char → Bool) : Nat := 1 + (rest.takeWhile p).length
  if c = '"' then
    match stringLength? rest with
    | some n => (.string, 1 + n)
    | none => (.error, 1 + rest.length)
  else if Json.isSpace c then (.blank, run Json.isSpace)
  else if isWordStart c then (.word, run isWordChar)
  else if isNumberStart c then (.number, run isNumberChar)
  else if isPunctuation c then (.punctuation, 1)
  else (.error, 1)

def tokens (s : List Char) : List Token :=
  match s with
  | [] => []
  | c :: rest =>
    let (kind, length) := tokenHead c rest
    ⟨kind, c :: rest.take (length - 1)⟩ :: tokens (rest.drop (length - 1))
termination_by s.length
decreasing_by simp only [List.length_drop, List.length_cons]; omega

/-- Whether the first token that is not blank is a colon. -/
def colonAhead : List Token → Bool
  | [] => false
  | t :: rest => if t.kind = .blank then colonAhead rest else t.text == [':']

/-- A string in front of a colon is a name. -/
def markNames : List Token → List Token
  | [] => []
  | t :: rest =>
    (if t.kind = .string ∧ colonAhead rest then ⟨.name, t.text⟩ else t) :: markNames rest

/-! ### Colours -/

def escapeSequence (code : String) : List Char := '\x1b' :: '[' :: code.toList ++ ['m']

def reset : List Char := escapeSequence "39;49;00"

def colorOf : TokenKind → Option (List Char)
  | .blank => some (escapeSequence "37")
  | .string => some (escapeSequence "33")
  | .name => some (escapeSequence "94")
  | .number | .word => some (escapeSequence "34")
  | .error => some (escapeSequence "04" ++ escapeSequence "91")
  | .punctuation => none

/-- A line, with the line feed at its end behind the reset. -/
def colorLine (color line : List Char) : List Char :=
  if line.getLast? = some '\n' then color ++ line.dropLast ++ reset ++ ['\n']
  else color ++ line ++ reset

def colorToken (t : Token) : List Char :=
  match colorOf t.kind with
  | some color => (Text.Lines.pieces t.text).flatMap (colorLine color)
  | none => t.text

/-- The text that is cut into tokens: a byte order mark and the line feeds at both ends are
dropped, and one line feed ends it. -/
def prepare (s : List Char) : List Char :=
  let s := if s.head? = some '\uFEFF' then s.drop 1 else s
  let s := (Text.Lines.unify s).dropWhile (· = '\n')
  (s.reverse.dropWhile (· = '\n')).reverse ++ ['\n']

/-- A text with its colours. -/
def highlight (text : String) : String :=
  String.ofList ((markNames (tokens (prepare text.toList))).flatMap colorToken)

end SymbolIndex.Terminal
