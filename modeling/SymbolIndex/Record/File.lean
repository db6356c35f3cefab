import SymbolIndex.Json.Reader
import SymbolIndex.Record.Basic
import SymbolIndex.World

/-!
# Record files

A record file holds a JSON array with an item for each symbol.
-/

namespace SymbolIndex.Record

open World

inductive FileError where
  | text (e : File.TextError)
  | unreadable (path : String) (e : Json.ReadError)
  | notList (path : String)
  deriving DecidableEq, Repr

def FileError.message : FileError → String
  | .text e => e.message
  | .unreadable _ (.hugeInteger n) => (Json.ReadError.hugeInteger n).message
  | .unreadable path e => path ++ ": invalid JSON: " ++ e.message
  | .notList path => path ++ ": expected a JSON array of records"

/-- Whether what the file holds is at fault, and not the file itself or a number too long. -/
def FileError.isMalformed : FileError → Bool
  | .text (.file _) => false
  | .unreadable _ e => e.isMalformed
  | _ => true

/-- The records of a file. -/
def ofFile (p : File.Path) : Effect FileError (List Record) := do
  let text ← readText .text p
  match ← ofExcept (.unreadable p.toString) (Json.read text.toList) with
  | .arr items => return items.map ofJson
  | _ => throw (.notList p.toString)

end SymbolIndex.Record
