import SymbolIndex.Document
import SymbolIndex.Entry

/-!
# Shards

A shard is a part of the index that is loaded as a whole. Its document lists the entries in
order; a shard that was read has an id, keys that are not empty and differ from each other, and
entries with at least one occurrence each.
-/

namespace SymbolIndex

structure Shard where
  id : String
  entries : List Entry
  deriving DecidableEq, Repr

namespace Shard

def keys (s : Shard) : List String := s.entries.map (·.key)

def formatName : String := "docsearch-shard"

def fileName (id : String) : String := id ++ ".json"

/-- What every shard that was read satisfies. -/
def WellFormed (s : Shard) : Prop :=
  s.id ≠ "" ∧ s.keys.Nodup ∧ ∀ e ∈ s.entries, e.key ≠ "" ∧ e.occurrences ≠ []

/-! ### Writing -/

def occurrenceJson (o : Occurrence) : Json := .arr [.str o.anchorUrl, .str o.scopeLabel]

def entryJson (e : Entry) : Json :=
  .arr [.str e.key, .str e.displayName, .arr (e.occurrences.map occurrenceJson)]

def render (s : Shard) : String :=
  Document.render formatName [("shard", .str s.id), ("entries", .arr (s.entries.map entryJson))]

/-! ### Reading -/

inductive ReadError where
  | document (e : Document.Error)
  | noId
  | entriesNotList
  | entryNotTriple
  | entryNotText
  | noOccurrences (key : String)
  | badOccurrence (key : String)
  | duplicateKey (key id : String)

def ReadError.message : ReadError → String
  | .document e => e.message
  | .noId => "shard id must be a non-empty string"
  | .entriesNotList => "entries must be a list"
  | .entryNotTriple => "entry must be a [key, display, occurrences] triple"
  | .entryNotText => "entry key and display name must be strings"
  | .noOccurrences key => "entry " ++ Text.quoted key ++ " has no occurrences"
  | .badOccurrence key => "entry " ++ Text.quoted key ++ " has a malformed occurrence"
  | .duplicateKey key id => "duplicate key " ++ Text.quoted key ++ " in shard " ++ Text.quoted id

/-- Whether the text is no shard document, and not a number in it too long. -/
def ReadError.isFormat : ReadError → Bool
  | .document e => e.isFormat
  | _ => true

def readOccurrence (key : String) : Json → Except ReadError Occurrence
  | .arr [.str url, .str label] => .ok ⟨url, label⟩
  | _ => .error (.badOccurrence key)

def readEntry : Json → Except ReadError Entry
  | .arr [key, name, places] =>
    match key, name with
    | .str key, .str name =>
      if key = "" then .error .entryNotText
      else
        match places with
        | .arr (p :: ps) => do return ⟨key, name, ← (p :: ps).mapM (readOccurrence key)⟩
        | _ => .error (.noOccurrences key)
    | _, _ => .error .entryNotText
  | _ => .error .entryNotTriple

/-- The first key that an earlier entry has too. -/
def repeatedKey? (seen : List String) : List Entry → Option String
  | [] => none
  | e :: rest => if e.key ∈ seen then some e.key else repeatedKey? (e.key :: seen) rest

def read (text : String) : Except ReadError Shard := do
  let m ← (Document.read formatName text).mapError .document
  match Document.field m "shard", Document.field m "entries" with
  | .str id, entries =>
    if id = "" then throw .noId
    match entries with
    | .arr items =>
      let entries ← items.mapM readEntry
      match repeatedKey? [] entries with
      | some key => throw (.duplicateKey key id)
      | none => return ⟨id, entries⟩
    | _ => throw .entriesNotList
  | _, _ => throw .noId

end Shard

end SymbolIndex
