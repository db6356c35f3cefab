import SymbolIndex.File.Disk

/-!
# Changes of a disk

What has to be done to turn one disk into another, in an order in which it can be done.
-/

namespace SymbolIndex.File

inductive Change where
  | makeDirectory (l : Location)
  | write (l : Location) (content : List UInt8)
  | remove (l : Location)
  deriving DecidableEq, Repr

namespace Disk

/-- What a node of the disk behind calls for on the disk before. -/
def changeTo (before : Disk) (l : Location) (n : Node) : Option Change :=
  if before.tree.find? l = some n then none
  else
    match n with
    | .directory => some (.makeDirectory l)
    | .file content => some (.write l content)

/-- The changes from one disk to another: what is new, oldest first, then what is gone. -/
def changes (before behind : Disk) : List Change :=
  behind.tree.nodes.reverse.filterMap (fun e => before.changeTo e.1 e.2) ++
    (before.tree.nodes.filter fun e => behind.tree.find? e.1 = none).map fun e => .remove e.1

end Disk

end SymbolIndex.File
