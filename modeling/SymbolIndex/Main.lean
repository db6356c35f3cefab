import SymbolIndex.CommandLine.Footprint
import SymbolIndex.Terminal.Highlight

/-!
# The command line program

Loads the part of the disk that the command looks at, runs the command on it, and carries out on
the real disk what the command changed.
-/

namespace SymbolIndex.CommandLine

/-- The error number of an attempt to read a directory as a file. -/
def directoryErrorNumber : UInt32 := 21

def systemPath (l : File.Location) : String := "/" ++ "/".intercalate l

/-- What stands at a place of the real disk. -/
def probe (l : File.Location) : IO (Option File.Node) := do
  match ← (IO.FS.readBinFile (systemPath l)).toBaseIO with
  | .ok content => return some (.file content.toList)
  | .error (.inappropriateType _ number _) =>
    return if number = directoryErrorNumber then some .directory else none
  | .error _ => return none

/-- Loads what stands on the way to a place. -/
def loadWay (d : File.Disk) (l : File.Location) : IO File.Disk :=
  (List.range l.length).foldlM (fun d n => do
    let here := l.take (n + 1)
    if (d.tree.find? here).isSome then return d
    match ← probe here with
    | some node => return { d with tree := d.tree.insert here node }
    | none => return d) d

/-- Loads what stands on the way along a path. -/
def loadPath (d : File.Disk) (p : File.Path) : IO File.Disk :=
  if p.hasNull then return d
  else
    (List.range (p.names.length + 1)).foldlM (fun d n =>
      loadWay d (d.resolve ⟨p.root, p.names.take n⟩).names) d

def loadPaths (d : File.Disk) (ps : List File.Path) : IO File.Disk := ps.foldlM loadPath d

def carryOut : File.Change → IO Unit
  | .makeDirectory l => IO.FS.createDirAll (systemPath l)
  | .write l content => IO.FS.writeBinFile (systemPath l) ⟨content.toArray⟩
  | .remove l => IO.FS.removeFile (systemPath l)

/-- The configuration file in the user's configuration directory. -/
def userConfigPath : IO File.Path := do
  let base ← match ← IO.getEnv "XDG_CONFIG_HOME" with
    | some dir =>
      if (Unicode.trim dir.toList).isEmpty then homeConfig else pure (File.Path.ofString dir)
    | none => homeConfig
  return (base.child programName).child "config.json"
where
  homeConfig : IO File.Path := do
    return (File.Path.ofString ((← IO.getEnv "HOME").getD "/")).child ".config"

/-- Prints how the program ended; returns its exit status. -/
def showEnding : Ending → IO UInt32
  | .done o => do
    o.warnings.forM fun w => IO.eprintln w
    IO.print (if o.isColored then Terminal.highlight o.text else o.text)
    return UInt32.ofNat o.status
  | .failed f => do
    IO.eprintln f.exitMessage
    return 1
  | .refused .help => return 0
  | .refused r => do
    IO.eprintln r.message
    return 2

def execute (arguments : List String) : IO UInt32 := do
  let configPath ← userConfigPath
  let cwd := (File.Path.ofString (toString (← IO.currentDir))).names
  let top ← loadWay ⟨⟨[]⟩, cwd, []⟩ cwd
  let known ← loadPaths top (footprint configPath top arguments)
  let before ← loadPaths known (footprint configPath known arguments)
  let (ending, log, behind) := run configPath before arguments
  (before.changes behind).forM carryOut
  log.forM fun l => IO.eprintln l.text
  showEnding ending

end SymbolIndex.CommandLine

def main (arguments : List String) : IO UInt32 := SymbolIndex.CommandLine.execute arguments
