import SymbolIndex.CommandLine.Run
import SymbolIndex.File.Change

/-!
# The footprint of a command

The paths whose content a command may depend on. They depend in turn on the manifests on the
disk, so a disk that holds nothing else yet has to be asked again once it holds those.
-/

namespace SymbolIndex.CommandLine

/-- The files of an index, as far as its manifest is known. -/
def indexFiles (d : File.Disk) (dir : File.Path) : List File.Path :=
  let ids := match ((Store.readManifest dir).run ⟨d, []⟩).1 with
    | .ok m => m.shardIds
    | .error _ => []
  Store.manifestPath dir :: ids.map (Store.shardPath dir)

def Command.footprint (d : File.Disk) : Command → List File.Path
  | .build inputs out _ => inputs ++ out.toList.flatMap (indexFiles d)
  | .query index .. => indexFiles d index
  | .display index id _ => [Store.shardPath index id]
  | .exportSearchData index out => out.toList ++ indexFiles d index
  | .settings _ => []

/-- The footprint of the program. -/
def footprint (configPath : File.Path) (d : File.Disk) (arguments : List String) :
    List File.Path :=
  match Invocation.read arguments with
  | .ok i => configPath :: i.command.footprint d
  | .error _ => []

end SymbolIndex.CommandLine
