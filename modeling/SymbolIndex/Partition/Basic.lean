import SymbolIndex.Json.Printer
import SymbolIndex.Partition.Checksum
import SymbolIndex.Text.Utf8

/-!
# Partitions of the keys

A partition gives each key one shard. The alphabetic partition has a shard for each leading
letter, one for digits and one for all else. A hashed partition spreads keys over a fixed number
of shards by the checksum of their first `hashWidth` characters. The digits of an id may be any
number; the limit for printing whole numbers, which counts from `10 ^ 4300` on would reach, is left
out here.
-/

namespace SymbolIndex

inductive Partition where
  | alpha
  | hashed (count : Nat) (positive : 0 < count)
  deriving DecidableEq, Repr

namespace Partition

inductive Scheme where
  | alpha
  | hashed
  deriving DecidableEq, Repr

def Scheme.name : Scheme → String
  | .alpha => "alpha"
  | .hashed => "hashed"

def Scheme.ofName? (name : String) : Option Scheme :=
  if name = "alpha" then some .alpha else if name = "hashed" then some .hashed else none

def Scheme.ofJson? : Json → Option Scheme
  | .str name => ofName? name
  | _ => none

def scheme : Partition → Scheme
  | .alpha => .alpha
  | .hashed .. => .hashed

def shardCount? : Partition → Option Nat
  | .alpha => none
  | .hashed count _ => some count

def defaultCount : Nat := 16

/-- How many leading characters a hashed partition looks at. -/
def hashWidth : Nat := 2

inductive OptionError where
  | unknownScheme (given : Json)
  | countNotPositive
  | countWithoutHash
  | emptyKey

def OptionError.message : OptionError → String
  | .unknownScheme given => "unknown partition scheme: " ++ given.literal
  | .countNotPositive => "shard_count must be >= 1"
  | .countWithoutHash => "shard_count only applies to the hashed scheme"
  | .emptyKey => "cannot partition an empty key"

def ofScheme : Scheme → (shardCount : Option Int) → Except OptionError Partition
  | .alpha, none => .ok .alpha
  | .alpha, some _ => .error .countWithoutHash
  | .hashed, none => .ok (.hashed defaultCount (by decide))
  | .hashed, some n =>
    if h : 0 < n.toNat then .ok (.hashed n.toNat h) else .error .countNotPositive

/-- The partition of a scheme given by name. -/
def ofOptions (scheme : Json) (shardCount : Option Int) : Except OptionError Partition :=
  match Scheme.ofJson? scheme with
  | some s => ofScheme s shardCount
  | none => .error (.unknownScheme scheme)

/-! ### Shard ids -/

/-- The id of a bucket: all ids of a partition have the same number of digits, at least two. -/
def hashedId (count bucket : Nat) : String :=
  let width := max 2 (Nat.toDigits 10 (count - 1)).length
  let ds := Nat.toDigits 10 bucket
  String.ofList ('h' :: List.replicate (width - ds.length) '0' ++ ds)

def letters : List String := ["a", "b", "c", "d", "e", "f", "g", "h", "i", "j", "k", "l", "m",
  "n", "o", "p", "q", "r", "s", "t", "u", "v", "w", "x", "y", "z"]

def digitsId : String := "digits"

def symbolsId : String := "symbols"

/-- The id of the shard of keys with this leading character. -/
def letterId (c : Char) : String :=
  if c.isLower then String.singleton c else if c.isDigit then digitsId else symbolsId

/-- The bucket of a key: the checksum of its first characters, modulo the number of shards. -/
def bucket (count : Nat) (key : List Char) : Nat :=
  (crc32 (Text.Utf8.encode (key.take hashWidth))).toNat % count

/-- Every shard id of a partition, in canonical order. -/
def allIds : Partition → List String
  | .alpha => letters ++ [digitsId, symbolsId]
  | .hashed count _ => (List.range count).map (hashedId count)

/-- The shard of a key that is not empty. -/
def idOf : Partition → (key : List Char) → String
  | .alpha, key => letterId (key.headD ' ')
  | .hashed count _, key => hashedId count (bucket count key)

/-- The shard of a key. -/
def shardOf (p : Partition) (key : String) : Except OptionError String :=
  if key = "" then .error .emptyKey else .ok (p.idOf key.toList)

/-- How many leading characters decide the shard. -/
def width : Partition → Nat
  | .alpha => 1
  | .hashed .. => hashWidth

/-- The shards that may hold keys beginning with a text: one if the text decides it, else all. -/
def idsFor (p : Partition) (start : String) : List String :=
  if p.width ≤ start.toList.length then [p.idOf start.toList] else p.allIds

/-- The place of an id in canonical order; unknown ids come last. -/
def orderOf (p : Partition) (id : String) : Nat := p.allIds.idxOf id

end Partition

end SymbolIndex
