import SymbolIndex.Manifest
import SymbolIndex.Record.Basic
import SymbolIndex.Shard

/-!
# Building an index

Records are validated one by one; entries with one key are merged in input order; the merged
entries are divided among the shards of a partition, each shard sorted by key.
-/

namespace SymbolIndex

/-- An index and the records that were left out of it. -/
structure Build where
  shards : List Shard
  manifest : Manifest
  rejected : List Record.Rejection

namespace Build

/-- What becomes of each record, the first of which has number `index`. -/
def validateFrom (index : Nat) : List Record → List (Except Record.Rejection Entry)
  | [] => []
  | r :: rest => r.validate (some (index : Int)) :: validateFrom (index + 1) rest

/-- Adds an entry: the occurrences of a known key go behind those it has. -/
def merge (merged : List Entry) (e : Entry) : List Entry :=
  match merged with
  | [] => [e]
  | d :: rest =>
    if d.key = e.key then { d with occurrences := d.occurrences ++ e.occurrences } :: rest
    else d :: merge rest e

/-- The entries with each key once, in the order in which the keys first occur. -/
def mergeAll (entries : List Entry) : List Entry := entries.foldl merge []

/-- The order of the entries of a shard. -/
def keyLe (a b : Entry) : Bool := decide (Key.sortText a.key ≤ Key.sortText b.key)

/-- The shards that have entries, in canonical order. -/
def divide (p : Partition) (entries : List Entry) : List Shard :=
  let ids := (entries.map fun e => p.idOf e.key.toList).eraseDups
  let ordered := (ids.map fun id => (p.orderOf id, id)).mergeSort fun a b => a.1 ≤ b.1
  ordered.map fun (_, id) =>
    ⟨id, (entries.filter fun e => p.idOf e.key.toList == id).mergeSort keyLe⟩

/-- The index of entries. -/
def ofEntries (p : Partition) (entries : List Entry) (rejected : List Record.Rejection) : Build :=
  let shards := divide p (mergeAll entries)
  ⟨shards, ⟨p, shards.map fun s => ⟨s.id, s.entries.length⟩⟩, rejected⟩

/-- Leaves out the records that are not valid. -/
def lenient (p : Partition) (records : List Record) : Build :=
  let outcomes := validateFrom 0 records
  ofEntries p (outcomes.filterMap fun
    | .ok e => some e
    | .error _ => none) (outcomes.filterMap fun
    | .ok _ => none
    | .error r => some r)

/-- Stops at the first record that is not valid. -/
def strict (p : Partition) (records : List Record) : Except Record.Rejection Build := do
  return ofEntries p (← (validateFrom 0 records).mapM id) []

/-- The strict or the lenient build. -/
def run (isStrict : Bool) (p : Partition) (records : List Record) :
    Except Record.Rejection Build :=
  if isStrict then strict p records else .ok (lenient p records)

def shard? (b : Build) (id : String) : Option Shard := b.shards.find? fun s => s.id == id

def entryCount (b : Build) : Nat := (b.shards.flatMap (·.entries)).length

end Build

end SymbolIndex
