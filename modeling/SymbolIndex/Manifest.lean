import SymbolIndex.Document
import SymbolIndex.Partition.Basic

/-!
# Manifests

The manifest of an index states its partition and lists its shards with their numbers of
entries.
-/

namespace SymbolIndex

namespace Manifest

structure Row where
  shardId : String
  entryCount : Int
  deriving DecidableEq, Repr

end Manifest

structure Manifest where
  partition : Partition
  rows : List Manifest.Row
  deriving DecidableEq, Repr

namespace Manifest

def shardIds (m : Manifest) : List String := m.rows.map (·.shardId)

def formatName : String := "docsearch-index"

def fileName : String := "index.json"

/-! ### Writing -/

def rowJson (r : Row) : Json := .arr [.str r.shardId, .int r.entryCount]

/-- The document of a scheme, a shard count and rows. -/
def renderParts (scheme : String) (shardCount : Option Int) (rows : List Row) : String :=
  Document.render formatName [("scheme", .str scheme),
    ("shard_count", (shardCount.map Json.int).getD .null), ("shards", .arr (rows.map rowJson))]

def render (m : Manifest) : String :=
  renderParts m.partition.scheme.name (m.partition.shardCount?.map Int.ofNat) m.rows

/-- The numbers that the document of a manifest states. -/
def numbers (m : Manifest) : List Int :=
  (m.partition.shardCount?.map Int.ofNat).toList ++ m.rows.map (·.entryCount)

/-- Whether no number has more digits than a document may hold. -/
def isPrintable (m : Manifest) : Bool :=
  m.numbers.all fun n => (Nat.toDigits 10 n.natAbs).length ≤ Text.Numeral.maxDigits

/-! ### Reading -/

inductive ReadError where
  | document (e : Document.Error)
  | unknownScheme (given : Json)
  | noShardCount
  | needlessShardCount (scheme : Partition.Scheme)
  | rowsNotList
  | badRow

def ReadError.message : ReadError → String
  | .document e => e.message
  | .unknownScheme given => "unknown manifest scheme: " ++ given.literal
  | .noShardCount => "hashed manifest needs a positive shard_count"
  | .needlessShardCount scheme =>
    "shard_count must be null for the " ++ Text.quoted scheme.name ++ " scheme"
  | .rowsNotList => "manifest shards must be a list"
  | .badRow => "manifest shard rows must be [shard_id, entry_count]"

/-- Whether the text is no manifest, and not a number in it too long. -/
def ReadError.isFormat : ReadError → Bool
  | .document e => e.isFormat
  | _ => true

def readPartition (scheme shardCount : Json) : Except ReadError Partition :=
  match Partition.Scheme.ofJson? scheme with
  | none => .error (.unknownScheme scheme)
  | some .hashed =>
    match shardCount with
    | .int n => if h : 0 < n.toNat then .ok (.hashed n.toNat h) else .error .noShardCount
    | _ => .error .noShardCount
  | some .alpha =>
    match shardCount with
    | .null => .ok .alpha
    | _ => .error (.needlessShardCount .alpha)

def readRow : Json → Except ReadError Row
  | .arr [.str id, .int n] => .ok ⟨id, n⟩
  | _ => .error .badRow

def read (text : String) : Except ReadError Manifest := do
  let m ← (Document.read formatName text).mapError .document
  let partition ← readPartition (Document.field m "scheme") (Document.field m "shard_count")
  match Document.field m "shards" with
  | .arr items => return ⟨partition, ← items.mapM readRow⟩
  | _ => throw .rowsNotList

/-- The alphabetic manifest of shards of unknown size. -/
def ofIds (ids : List String) : Manifest := ⟨.alpha, ids.map (⟨·, 0⟩)⟩

end Manifest

end SymbolIndex
