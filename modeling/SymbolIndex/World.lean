import SymbolIndex.File.Disk
import SymbolIndex.Text.Lines
import SymbolIndex.Text.Utf8

/-!
# The world of a program

What a command sees and changes: a disk and a log. A command may fail with an error of its own
kind, and what it did before it failed stays done.

A text that is written has bytes, since it consists of characters. A text with a surrogate on its
own would have none (`Text.Utf8.Unencodable`); there is no such text here, so a write does not fail
for that.
-/

namespace SymbolIndex

inductive Level where
  | debug
  | info
  | warning
  deriving DecidableEq, Repr

def Level.name : Level → String
  | .debug => "DEBUG"
  | .info => "INFO"
  | .warning => "WARNING"

structure LogLine where
  logger : String
  level : Level
  message : String
  deriving DecidableEq, Repr

def LogLine.text (l : LogLine) : String := l.logger ++ " - " ++ l.level.name ++ " - " ++ l.message

/-- Why the text of a file cannot be had. -/
inductive File.TextError where
  | file (e : File.Error)
  | notUtf8 (path : String) (fault : Text.Utf8.Fault)
  deriving DecidableEq, Repr

def File.TextError.message : File.TextError → String
  | .file e => e.message
  | .notUtf8 path fault => path ++ ": not valid UTF-8: " ++ fault.message

/-- The text that a file holds, with all line ends as line feeds. -/
def File.decodeText (content : List UInt8) : Except Text.Utf8.Fault String := do
  return String.ofList (Text.Lines.unify (← Text.Utf8.decode content))

/-- What a file holds for a text. -/
def File.encodeText (text : String) : List UInt8 := Text.Utf8.encode text.toList

structure World where
  disk : File.Disk
  log : List LogLine

namespace World

abbrev Effect (ε α : Type) := ExceptT ε (StateM World) α

variable {ε α : Type}

/-- An operation on the disk. -/
def onDisk (toError : File.Error → ε) (e : File.Effect α) : Effect ε α := do
  let w ← get
  let (result, disk) := e.run w.disk
  set { w with disk := disk }
  match result with
  | .ok a => return a
  | .error e => throw (toError e)

def note (logger : String) (level : Level) (message : String) : Effect ε Unit :=
  modify fun w => { w with log := w.log ++ [⟨logger, level, message⟩] }

/-- A result that may be an error. -/
def ofExcept {ε' : Type} (toError : ε' → ε) : Except ε' α → Effect ε α
  | .ok a => return a
  | .error e => throw (toError e)

/-- The text of a file. -/
def readText (toError : File.TextError → ε) (p : File.Path) : Effect ε String := do
  let content ← onDisk (toError ∘ .file) (File.Effect.read p)
  ofExcept (fun fault => toError (.notUtf8 p.toString fault)) (File.decodeText content)

def writeText (toError : File.Error → ε) (p : File.Path) (text : String) : Effect ε Unit :=
  onDisk toError (File.Effect.write p (File.encodeText text))

end World

end SymbolIndex
