import SymbolIndex.Build
import SymbolIndex.Session.Basic
import SymbolIndex.World

/-!
# Index directories

An index is stored as a directory with a file for each shard and one for the manifest. Writing a
new index over an old one removes the shards that only the old manifest lists.
-/

namespace SymbolIndex.Store

open World File

inductive Error where
  | text (e : File.TextError)
  | manifest (e : Manifest.ReadError)
  | hugeNumber

def Error.message : Error → String
  | .text e => e.message
  | .manifest e => e.message
  | .hugeNumber => s!"Exceeds the limit ({Text.Numeral.maxDigits} digits) for integer string " ++
    "conversion; use sys.set_int_max_str_digits() to increase the limit"

def Error.file (e : File.Error) : Error := .text (.file e)

/-! ### Writing -/

def logger : String := "docsearch.index.builder"

/-- The lines that a build leaves in the log. -/
def buildLog (b : Build) : List LogLine :=
  (b.rejected.map fun r => ⟨logger, .warning, "dropping malformed record: " ++ r.message⟩) ++
    [⟨logger, .info, s!"built {b.entryCount} entries in {b.shards.length} shards " ++
      s!"({b.rejected.length} records rejected)"⟩]

def shardPath (out : Path) (id : String) : Path := out.child (Shard.fileName id)

def manifestPath (out : Path) : Path := out.child Manifest.fileName

/-- The shards that the manifest of an earlier index lists. One that cannot be read counts for
nothing, unless it holds a whole number that is too long. -/
def previousIds (out : Path) : Effect Error (List String) := do
  let path := manifestPath out
  let ignore : Effect Error (List String) := do
    note logger .warning ("ignoring unreadable previous manifest at " ++ path.toString)
    return []
  if ← onDisk Error.file (File.Effect.doesExist path) then
    let content ← onDisk Error.file (File.Effect.read path)
    match (File.decodeText content).toOption.map Manifest.read with
    | some (.ok m) => return m.shardIds
    | some (.error (.document (.unreadable (.hugeInteger n)))) =>
      throw (.manifest (.document (.unreadable (.hugeInteger n))))
    | _ => ignore
  else return []

/-- Removes the file of a shard that is no longer listed, if there is one. -/
def removeStale (out : Path) (id : String) : Effect Error Unit := do
  let path := shardPath out id
  if ← onDisk Error.file (File.Effect.doesExist path) then
    note logger .debug ("removing stale shard " ++ path.toString)
    onDisk Error.file (File.Effect.remove path)

/-- Writes the manifest of an index, unless it has a number that is too long for a document. -/
def writeManifest (m : Manifest) (out : Path) : Effect Error Unit := do
  if !m.isPrintable then throw .hugeNumber
  writeText Error.file (manifestPath out) m.render

/-- Writes an index into a directory, made if it is missing: the shards, then the removals, the
manifest last. Returns the paths written, in order. -/
def write (b : Build) (out : Path) : Effect Error (List Path) := do
  onDisk Error.file (File.Effect.makeDirectories out)
  let previous ← previousIds out
  b.shards.forM fun s => writeText Error.file (shardPath out s.id) s.render
  (previous.filter fun id => id ∉ b.manifest.shardIds).forM (removeStale out)
  writeManifest b.manifest out
  return b.shards.map (fun s => shardPath out s.id) ++ [manifestPath out]

/-! ### Reading -/

/-- The directory of an index, as a path from the top. -/
def locate (dir : Path) : Effect Error Path := do
  if dir.hasNull then throw (.file .nullCharacter)
  return (← get).disk.resolve dir

def readManifest (root : Path) : Effect Error Manifest := do
  ofExcept .manifest (Manifest.read (← readText .text (manifestPath root)))

def fetch (root : Path) (id : String) : Effect Error String := readText .text (shardPath root id)

/-- The index of a directory, as the disk holds it now. -/
def source (d : Disk) (root : Path) (m : Manifest) : Source where
  manifest := m
  fetch id :=
    match ((fetch root id).run ⟨d, []⟩).1 with
    | .ok text => .ok text
    | .error e => .error ⟨"unreadable", e.message⟩

/-- Opens the index of a directory. -/
def openIndex (dir : Path) : Effect Error Source := do
  let root ← locate dir
  let manifest ← readManifest root
  return source (← get).disk root manifest

/-- A build as it is held in memory. -/
def ofBuild (b : Build) : Source := .memory (b.shards.map fun s => (s.id, s.render)) b.manifest

end SymbolIndex.Store
