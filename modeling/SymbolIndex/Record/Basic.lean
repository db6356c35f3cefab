import SymbolIndex.Entry
import SymbolIndex.Json.Printer
import SymbolIndex.Key.Basic
import SymbolIndex.Unicode.Blank

/-!
# Symbol records

A record is one symbol as an extractor reports it. `Record.ofJson` takes any JSON value and
keeps mistyped fields as they are; `Record.validate` then accepts the record whole, as the index
entry it gives rise to, or rejects it whole.
-/

namespace SymbolIndex

namespace Record

/-- An occurrence as reported. -/
structure Place where
  anchorUrl : Json
  scopeLabel : Json

end Record

/-- A record as reported. An empty raw name leaves the key to the display name. -/
structure Record where
  rawName : Json
  displayName : Json
  occurrences : List Record.Place

namespace Record

/-- The record of a symbol whose fields all have their types. -/
def ofText (rawName displayName : String) (occurrences : List Occurrence) : Record :=
  ⟨.str rawName, .str displayName, occurrences.map fun o => ⟨.str o.anchorUrl, .str o.scopeLabel⟩⟩

/-- A missing field is empty text. -/
def field (m : Json.Members) (name : String) : Json := (m.get? name).getD (.str "")

def Place.ofJson : Json → Place
  | .obj m => ⟨field m "anchor_url", field m "scope_label"⟩
  | _ => ⟨.str "", .str ""⟩

def ofJson : Json → Record
  | .obj m =>
    let places := match Json.Members.get? m "occurrences" with
      | some (.arr items) => items.map Place.ofJson
      | _ => []
    ⟨field m "raw_name", field m "display_name", places⟩
  | _ => ⟨.str "", .str "", []⟩

/-! ### Validation -/

/-- What makes a record unfit for the index. -/
inductive Defect where
  | noDisplayName
  | rawNameNotText
  | noOccurrences
  | noAnchor (position : Nat)
  | scopeNotText (position : Nat)
  | noKey
  deriving DecidableEq, Repr

def Defect.message : Defect → String
  | .noDisplayName => "missing display name"
  | .rawNameNotText => "raw name must be a string"
  | .noOccurrences => "no occurrences"
  | .noAnchor p => s!"occurrence {p} has no anchor url"
  | .scopeNotText p => s!"occurrence {p} scope label must be a string"
  | .noKey => "name has no searchable characters"

/-- A rejected record: its place in the input, if known, and its name unless that is what is
missing. -/
structure Rejection where
  index : Option Int
  displayName : String
  defect : Defect
  deriving DecidableEq, Repr

def Rejection.message (r : Rejection) : String :=
  let index := match r.index with
    | some i => toString i
    | none => "None"
  match r.defect with
  | .noDisplayName => s!"record {index}: " ++ r.defect.message
  | d => s!"record {index} (" ++ Text.quoted r.displayName ++ "): " ++ d.message

/-- Whether a name shows anything. -/
def isVisible (name : String) : Bool := name.toList.any fun c => !Unicode.isBlank c

/-- The occurrences of a record, the first of which stands at `position`. -/
def validPlaces : (position : Nat) → List Place → Except Defect (List Occurrence)
  | _, [] => .ok []
  | position, p :: rest =>
    match p.anchorUrl, p.scopeLabel with
    | .str url, scope =>
      if url = "" then .error (.noAnchor position)
      else
        match scope with
        | .str label => do return ⟨url, label⟩ :: (← validPlaces (position + 1) rest)
        | _ => .error (.scopeNotText position)
    | _, _ => .error (.noAnchor position)

/-- The entry of a record with a visible name. -/
def entryNamed (r : Record) (displayName : String) : Except Defect Entry :=
  match r.rawName with
  | .str rawName =>
    if r.occurrences.isEmpty then .error .noOccurrences
    else do
      let occurrences ← validPlaces 0 r.occurrences
      let key := Key.normalize (if rawName = "" then displayName else rawName)
      if key = "" then .error .noKey else return ⟨key, displayName, occurrences⟩
  | _ => .error .rawNameNotText

/-- The entry of a valid record. -/
def validate (r : Record) (index : Option Int) : Except Rejection Entry :=
  match r.displayName with
  | .str name =>
    if isVisible name then (r.entryNamed name).mapError fun d => ⟨index, name, d⟩
    else .error ⟨index, "", .noDisplayName⟩
  | _ => .error ⟨index, "", .noDisplayName⟩

end Record

end SymbolIndex
