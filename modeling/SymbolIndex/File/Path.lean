/-!
# Paths

A path is a root, empty for a relative path, and the names behind it. Repeated slashes and single
dots say nothing and are not kept; two leading slashes are a root of their own.
-/

namespace SymbolIndex.File

structure Path where
  root : String
  names : List String
  deriving DecidableEq, Repr

namespace Path

/-- The parts of a text between slashes. -/
def splitSlash (part : List Char) : List Char → List (List Char)
  | [] => [part.reverse]
  | c :: rest => if c = '/' then part.reverse :: splitSlash [] rest else splitSlash (c :: part) rest

def rootOf : List Char → String
  | '/' :: '/' :: '/' :: _ => "/"
  | '/' :: '/' :: _ => "//"
  | '/' :: _ => "/"
  | _ => ""

def ofString (text : String) : Path where
  root := rootOf text.toList
  names := ((splitSlash [] text.toList).map String.ofList).filter fun n => n ≠ "" ∧ n ≠ "."

def toString (p : Path) : String :=
  if p.root = "" ∧ p.names = [] then "." else p.root ++ "/".intercalate p.names

/-- A path seen from another; a path with a root stays as it is. -/
def join (p q : Path) : Path := if q.root = "" then ⟨p.root, p.names ++ q.names⟩ else q

/-- The file or directory of this name below a path. -/
def child (p : Path) (name : String) : Path := p.join (ofString name)

def parent (p : Path) : Path := ⟨p.root, p.names.dropLast⟩

/-- The part of the last name from its last dot on; a dot that begins or ends the name does not
count. -/
def suffix (p : Path) : String :=
  let name := ((p.names.getLast?).getD "").toList
  let tail := (name.reverse.takeWhile (· ≠ '.')).reverse
  let before := name.length - tail.length
  if tail ≠ [] ∧ 1 < before then String.ofList ('.' :: tail) else ""

end Path

end SymbolIndex.File
