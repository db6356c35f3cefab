import SymbolIndex.Json.Reader
import SymbolIndex.Settings.Basic
import SymbolIndex.World

/-!
# The configuration file

Settings are kept in a JSON object with other members that saving leaves alone.
-/

namespace SymbolIndex.Settings

open World

/-- The members of the object a file holds; none if it holds no object. -/
def membersOf (content : List UInt8) : Json.Members :=
  match File.decodeText content with
  | .ok text =>
    match Json.read text.toList with
    | .ok (.obj m) => m
    | _ => []
  | .error _ => []

/-- The members of the configuration file; none if it cannot be read. -/
def loadMembers {ε : Type} (path : File.Path) : Effect ε Json.Members := do
  let w ← getThe World
  match ((File.Effect.read path).run w.disk).1 with
  | .ok content => return membersOf content
  | .error _ => return []

def load {ε : Type} (path : File.Path) : Effect ε Settings := do
  return ofMembers (← loadMembers path)

def mergeMembers (m : Json.Members) (s : Settings) : Json.Members :=
  s.toMembers.foldl (fun m e => m.put e.1 e.2) m

def fileText (m : Json.Members) : String :=
  String.ofList (Json.pretty true (.obj m) ++ ['\n'])

/-- Saves settings among the members that the file already has. -/
def save (path : File.Path) (s : Settings) : Effect File.Error Unit := do
  let m ← loadMembers path
  onDisk id (File.Effect.makeDirectories path.parent)
  writeText id path (fileText (mergeMembers m s))

end SymbolIndex.Settings
