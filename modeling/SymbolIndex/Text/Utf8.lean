import SymbolIndex.Text.Hex

/-!
# UTF-8

Encoding, and decoding by a machine that takes one byte at a time. The machine cuts any byte
sequence into characters and *ill-formed parts*, each as long as possible, so that one pass
serves strict decoding (`decode`, which stops at the first ill-formed part and says where it is)
and lossy decoding (`decodeLossy`, which puts one U+FFFD for each).

A text is a list of characters, and no character is a surrogate. Where surrogates on their own can
come up, in the escapes of a document, there are code points in place of characters; they have no
bytes (`Unencodable`).
-/

namespace SymbolIndex.Text.Utf8

/-! ### Encoding -/

def encodeChar (c : Char) : List UInt8 :=
  let n := c.toNat
  if n < 0x80 then [.ofNat n]
  else if n < 0x800 then [.ofNat (0xc0 + n / 64), .ofNat (0x80 + n % 64)]
  else if n < 0x10000 then
    [.ofNat (0xe0 + n / 4096), .ofNat (0x80 + n / 64 % 64), .ofNat (0x80 + n % 64)]
  else
    [.ofNat (0xf0 + n / 262144), .ofNat (0x80 + n / 4096 % 64), .ofNat (0x80 + n / 64 % 64),
      .ofNat (0x80 + n % 64)]

def encode (s : List Char) : List UInt8 := s.flatMap encodeChar

/-! ### Surrogates -/

/-- A character, or a surrogate on its own. -/
inductive CodePoint where
  | char (c : Char)
  | surrogate (code : Nat)
  deriving DecidableEq, Repr

def CodePoint.isSurrogate : CodePoint → Bool
  | .char _ => false
  | .surrogate _ => true

/-- The character in a text; U+FFFD stands for a surrogate. -/
def CodePoint.toChar : CodePoint → Char
  | .char c => c
  | .surrogate _ => '\uFFFD'

/-- Surrogates in a row, which have no bytes: the first, its place, and how many there are. -/
structure Unencodable where
  code : Nat
  place : Nat
  count : Nat
  deriving DecidableEq, Repr

def Unencodable.message (u : Unencodable) : String :=
  let what :=
    if u.count = 1 then
      "character '\\u" ++ String.ofList (hex 4 u.code) ++ s!"' in position {u.place}"
    else s!"characters in position {u.place}-{u.place + u.count - 1}"
  "'utf-8' codec can't encode " ++ what ++ ": surrogates not allowed"

/-! ### Decoding -/

/-- Why a part is ill-formed. -/
inductive Reason where
  | startByte
  | continuationByte
  | endOfData
  deriving DecidableEq, Repr

/-- A character, or an ill-formed part of so many bytes. -/
inductive Piece where
  | char (c : Char)
  | bad (reason : Reason) (length : Nat)
  deriving DecidableEq, Repr

/-- A character begun: how many bytes it still needs, the bounds of the next one, its value so
far, and how many bytes it has. -/
structure Begun where
  need : Nat
  low : Nat
  high : Nat
  value : Nat
  taken : Nat

/-- The first byte of a character. -/
def first (b : Nat) : List Piece × Option Begun :=
  if b < 0x80 then ([.char (Char.ofNat b)], none)
  else if b < 0xc2 then ([.bad .startByte 1], none)
  else if b < 0xe0 then ([], some ⟨1, 0x80, 0xbf, b - 0xc0, 1⟩)
  else if b < 0xf0 then
    ([], some ⟨2, if b = 0xe0 then 0xa0 else 0x80, if b = 0xed then 0x9f else 0xbf, b - 0xe0, 1⟩)
  else if b < 0xf5 then
    ([], some ⟨3, if b = 0xf0 then 0x90 else 0x80, if b = 0xf4 then 0x8f else 0xbf, b - 0xf0, 1⟩)
  else ([.bad .startByte 1], none)

/-- A byte that does not continue the character begun ends it and is itself a first byte. -/
def step (begun : Option Begun) (b : Nat) : List Piece × Option Begun :=
  match begun with
  | none => first b
  | some p =>
    if p.low ≤ b ∧ b ≤ p.high then
      let value := p.value * 64 + (b - 0x80)
      if p.need = 1 then ([.char (Char.ofNat value)], none)
      else ([], some ⟨p.need - 1, 0x80, 0xbf, value, p.taken + 1⟩)
    else
      let (pieces, next) := first b
      (.bad .continuationByte p.taken :: pieces, next)

def run : Option Begun → List UInt8 → List Piece
  | none, [] => []
  | some p, [] => [.bad .endOfData p.taken]
  | begun, b :: rest =>
    let (pieces, next) := step begun b.toNat
    pieces ++ run next rest

def pieces (bytes : List UInt8) : List Piece := run none bytes

/-- The first ill-formed part: its first byte, its place and its length. -/
structure Fault where
  reason : Reason
  byte : Nat
  start : Nat
  length : Nat
  deriving DecidableEq, Repr

def Fault.message (f : Fault) : String :=
  let place :=
    if f.length = 1 then
      "byte 0x" ++ String.ofList (Nat.toDigits 16 f.byte) ++ s!" in position {f.start}"
    else s!"bytes in position {f.start}-{f.start + f.length - 1}"
  let reason := match f.reason with
    | .startByte => "invalid start byte"
    | .continuationByte => "invalid continuation byte"
    | .endOfData => "unexpected end of data"
  "'utf-8' codec can't decode " ++ place ++ ": " ++ reason

/-- The characters of pieces that hold no ill-formed part, the first of them at byte `pos`. -/
def collect (bytes : List UInt8) : (pos : Nat) → List Piece → Except Fault (List Char)
  | _, [] => .ok []
  | pos, .char c :: rest => do
    return c :: (← collect bytes (pos + (encodeChar c).length) rest)
  | pos, .bad reason length :: _ => .error ⟨reason, (bytes.getD pos 0).toNat, pos, length⟩

/-- Strict decoding. -/
def decode (bytes : List UInt8) : Except Fault (List Char) := collect bytes 0 (pieces bytes)

/-- Decoding with U+FFFD for each ill-formed part. -/
def decodeLossy (bytes : List UInt8) : List Char :=
  (pieces bytes).map fun
    | .char c => c
    | .bad .. => '\uFFFD'

end SymbolIndex.Text.Utf8
