import SymbolIndex.File.Path
import SymbolIndex.Text.Quoted

/-!
# Files and directories

A disk is a tree of files and directories with a working directory. Its operations fail as those
of an operating system do, and a failing operation may leave part of its work behind: a file that
is written loses what it held before the first byte is written, and a device that runs full leaves
the first part of the new content (`Effect.write`). There are no symbolic links, so each place has
one path from the top.
-/

namespace SymbolIndex.File

/-! ### Trees -/

/-- A place in a tree: the names that lead to it from the top. -/
abbrev Location := List String

inductive Node where
  | directory
  | file (content : List UInt8)
  deriving DecidableEq, Repr

/-- The places of a tree, without its top, which is a directory. -/
structure Tree where
  nodes : List (Location × Node)
  deriving DecidableEq, Repr

namespace Tree

def find? (t : Tree) (l : Location) : Option Node :=
  if l = [] then some .directory else (t.nodes.find? fun e => e.1 == l).map (·.2)

def erase (t : Tree) (l : Location) : Tree := ⟨t.nodes.filter fun e => e.1 != l⟩

def insert (t : Tree) (l : Location) (n : Node) : Tree := ⟨(l, n) :: (t.erase l).nodes⟩

theorem find?_erase_of_ne (t : Tree) {l m : Location} (h : m ≠ l) :
    (t.erase l).find? m = t.find? m := by
  unfold find? erase
  split
  · rfl
  · rw [List.find?_filter]
    congr 2
    funext e
    by_cases hm : e.1 = m
    · subst hm; simp [h]
    · simp [hm]

theorem find?_erase_self (t : Tree) {l : Location} (h : l ≠ []) : (t.erase l).find? l = none := by
  simp [find?, erase, h, List.find?_filter]

theorem find?_insert_self (t : Tree) {l : Location} (h : l ≠ []) (n : Node) :
    (t.insert l n).find? l = some n := by
  simp [find?, insert, h]

theorem find?_insert_of_ne (t : Tree) {l m : Location} (n : Node) (h : m ≠ l) :
    (t.insert l n).find? m = t.find? m := by
  rw [← find?_erase_of_ne t h]
  unfold find? insert
  split
  · rfl
  · simp [Ne.symm h]

end Tree

/-! ### Errors -/

/-- Why the system refuses an operation. -/
inductive Cause where
  | noEntry
  | alreadyExists
  | notDirectory
  | isDirectory
  | nameTooLong
  | accessDenied
  deriving DecidableEq, Repr

def Cause.number : Cause → Nat
  | .noEntry => 2
  | .accessDenied => 13
  | .alreadyExists => 17
  | .notDirectory => 20
  | .isDirectory => 21
  | .nameTooLong => 36

def Cause.message : Cause → String
  | .noEntry => "No such file or directory"
  | .alreadyExists => "File exists"
  | .notDirectory => "Not a directory"
  | .isDirectory => "Is a directory"
  | .nameTooLong => "File name too long"
  | .accessDenied => "Permission denied"

/-- A path that the system refuses, one with a null character, which it never gets to see, or a
device that takes no more bytes. -/
inductive Error where
  | refused (cause : Cause) (path : String)
  | nullCharacter
  | deviceFull
  deriving DecidableEq, Repr

def Error.message : Error → String
  | .refused cause path =>
    s!"[Errno {cause.number}] " ++ cause.message ++ ": " ++ Text.quoted path
  | .nullCharacter => "embedded null byte"
  | .deviceFull => "[Errno 28] No space left on device"

/-! ### Disks -/

/-- What may keep a file from being changed: it is locked, or its device has room for so many bytes
of it and no more. -/
inductive Obstacle where
  | locked
  | room (bytes : Nat)
  deriving DecidableEq, Repr

structure Disk where
  tree : Tree
  cwd : Location
  obstacles : List (Location × Obstacle) := []
  deriving DecidableEq, Repr

namespace Disk

/-- What stands in the way of changing the file at a place. -/
def obstacle? (d : Disk) (l : Location) : Option Obstacle :=
  (d.obstacles.find? fun e => e.1 == l).map (·.2)

/-! ### Finding a place -/

/-- The length of the longest name, in bytes. -/
def maxNameLength : Nat := 255

/-- The length of the longest path, in bytes. -/
def maxPathLength : Nat := 4095

/-- The place a name leads to from a place that must be a directory. -/
def enter (d : Disk) (here : Location) (name : String) : Except Cause Location :=
  match d.tree.find? here with
  | none => .error .noEntry
  | some (.file _) => .error .notDirectory
  | some .directory =>
    if name = ".." then .ok here.dropLast
    else if maxNameLength < name.utf8ByteSize then .error .nameTooLong
    else .ok (here ++ [name])

def origin (d : Disk) (p : Path) : Location := if p.root = "" then d.cwd else []

/-- The place of a path, which need not exist, in a directory that does. -/
def locate (d : Disk) (p : Path) : Except Cause Location :=
  if maxPathLength < p.toString.utf8ByteSize then .error .nameTooLong
  else p.names.foldlM d.enter (d.origin p)

/-- A path from the top, with every `..` taken back, whether its names exist or not. -/
def resolve (d : Disk) (p : Path) : Path where
  root := "/"
  names := p.names.foldl
    (fun here name => if name = ".." then here.dropLast else here ++ [name]) (d.origin p)

end Disk

/-- Paths that the system gets to see. -/
def Path.hasNull (p : Path) : Bool := p.names.any fun n => n.toList.any fun c => c = '\x00'

/-- An operation on a disk; what it did before it failed stays done. -/
abbrev Effect (α : Type) := ExceptT Error (StateM Disk) α

namespace Effect

/-- The place of a path. -/
def locate (p : Path) : Effect Location := do
  if p.hasNull then throw .nullCharacter
  match (← get).locate p with
  | .ok l => return l
  | .error cause => throw (.refused cause p.toString)

def node? (p : Path) : Effect (Option Node) := do
  let l ← locate p
  return (← get).tree.find? l

/-- Whether something stands at a path. A path through a missing directory or a file leads
nowhere. -/
def doesExist (p : Path) : Effect Bool := do
  if p.hasNull then return false
  let d ← get
  match d.locate p with
  | .ok l => return (d.tree.find? l).isSome
  | .error .nameTooLong => throw (.refused .nameTooLong p.toString)
  | .error _ => return false

def read (p : Path) : Effect (List UInt8) := do
  match ← node? p with
  | some (.file content) => return content
  | some .directory => throw (.refused .isDirectory p.toString)
  | none => throw (.refused .noEntry p.toString)

def setNode (l : Location) (n : Node) : Effect Unit :=
  modify fun d => { d with tree := d.tree.insert l n }

/-- Empties the file at a path, or makes it, and then writes its content, as far as there is room
for it. -/
def write (p : Path) (content : List UInt8) : Effect Unit := do
  let l ← locate p
  let d ← get
  match d.tree.find? l, d.obstacle? l with
  | some .directory, _ => throw (.refused .isDirectory p.toString)
  | _, some .locked => throw (.refused .accessDenied p.toString)
  | _, some (.room bytes) =>
    setNode l (.file (content.take bytes))
    if bytes < content.length then throw .deviceFull
  | _, none => setNode l (.file content)

def remove (p : Path) : Effect Unit := do
  let l ← locate p
  let d ← get
  match d.tree.find? l, d.obstacle? l with
  | some (.file _), some .locked => throw (.refused .accessDenied p.toString)
  | some (.file _), _ => modify fun d => { d with tree := d.tree.erase l }
  | some .directory, _ => throw (.refused .isDirectory p.toString)
  | none, _ => throw (.refused .noEntry p.toString)

/-- Makes a directory at a place, which a path leads to, if there is none yet. -/
def ensureDirectory (p : Path) (l : Location) : Effect Location := do
  match (← get).tree.find? l with
  | some .directory => return l
  | some (.file _) => throw (.refused .alreadyExists p.toString)
  | none =>
    setNode l .directory
    return l

/-- Makes a directory, given by its root and its names, last first, and those above it that are
missing. Returns its place. -/
def makeDirectoriesAt (root : String) : (names : List String) → Effect Location
  | [] => return (← get).origin ⟨root, []⟩
  | name :: above => do
    let p : Path := ⟨root, (name :: above).reverse⟩
    match (← get).locate p with
    | .ok l => ensureDirectory p l
    | .error .noEntry =>
      let here ← makeDirectoriesAt root above
      match (← get).enter here name with
      | .ok l => ensureDirectory p l
      | .error cause => throw (.refused cause p.toString)
    | .error cause => throw (.refused cause p.toString)

/-- Makes a directory and those above it that are missing; one that exists is left as it is. -/
def makeDirectories (p : Path) : Effect Unit := do
  if p.hasNull then throw .nullCharacter
  let _ ← makeDirectoriesAt p.root p.names.reverse

end Effect

/-! ### All files -/

/-- The files below the working directory: their paths from there, and their contents. -/
def Disk.files (d : Disk) : List (String × List UInt8) :=
  let found := d.tree.nodes.filterMap fun (l, n) =>
    match n with
    | .file content =>
      if d.cwd.isPrefixOf l then some ("/".intercalate (l.drop d.cwd.length), content) else none
    | .directory => none
  found.mergeSort fun a b => decide (a.1 ≤ b.1)

end SymbolIndex.File
