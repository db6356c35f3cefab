import SymbolIndex.Json.Printer
import SymbolIndex.Json.Reader

/-!
# Index documents

Shards and manifests are stored as JSON objects that name their format and its version. They are
written on one line in one way, so that equal content gives equal bytes.
-/

namespace SymbolIndex.Document

/-- Why a text is not a document of the expected format. -/
inductive Error where
  | unreadable (e : Json.ReadError)
  | notObject
  | wrongFormat (expected : String) (got : Json)
  | wrongVersion (got : Json)

def Error.message : Error → String
  | .unreadable (.hugeInteger n) => (Json.ReadError.hugeInteger n).message
  | .unreadable e => "invalid JSON: " ++ e.message
  | .notObject => "document must be a JSON object"
  | .wrongFormat expected got =>
    "expected format " ++ Text.quoted expected ++ ", got " ++ got.literal
  | .wrongVersion got => "unsupported version: " ++ got.literal

/-- Whether the text is at fault, and not a number in it too long. -/
def Error.isFormat : Error → Bool
  | .unreadable e => e.isMalformed
  | _ => true

/-- The value of a name, null if there is none. -/
def field (m : Json.Members) (name : String) : Json := (m.get? name).getD .null

def isText (v : Json) (s : String) : Bool :=
  match v with
  | .str t => t == s
  | _ => false

/-- The members of a document of a format. -/
def read (format : String) (text : String) : Except Error Json.Members := do
  match ← (Json.read text.toList).mapError .unreadable with
  | .obj m =>
    if !isText (field m "format") format then throw (.wrongFormat format (field m "format"))
    if !(field m "version").isOne then throw (.wrongVersion (field m "version"))
    return m
  | _ => throw .notObject

/-- The text of a document: its format, its version, and the members given. -/
def render (format : String) (members : Json.Members) : String :=
  String.ofList (Json.compact (.obj (("format", .str format) :: ("version", .int 1) :: members)) ++
    ['\n'])

end SymbolIndex.Document
