import SymbolIndex.Json.Printer
import SymbolIndex.Match.Basic
import SymbolIndex.Partition.Basic
import SymbolIndex.Text.Numeral

/-!
# Settings

The defaults that a user keeps in a configuration file. Reading them never fails: whatever is
missing or invalid has its default value. A change from the command line is accepted only if
reading would give the changed value back.
-/

namespace SymbolIndex

structure Settings where
  strict : Bool
  scheme : Partition.Scheme
  shardCount : Option Nat
  matchMode : MatchMode
  resultLimit : Option Nat
  loadWorkers : Nat
  style : String
  deriving DecidableEq, Repr

namespace Settings

def default : Settings := ⟨true, .alpha, none, .anywhere, none, 4, "monokai"⟩

/-! ### Keys and values -/

inductive Key where
  | strict
  | scheme
  | shardCount
  | matchMode
  | resultLimit
  | loadWorkers
  | style
  deriving DecidableEq, Repr

def Key.all : List Key :=
  [.strict, .scheme, .shardCount, .matchMode, .resultLimit, .loadWorkers, .style]

def Key.name : Key → String
  | .strict => "strict"
  | .scheme => "scheme"
  | .shardCount => "shard_count"
  | .matchMode => "match_mode"
  | .resultLimit => "result_limit"
  | .loadWorkers => "load_workers"
  | .style => "style"

def Key.ofName? (name : String) : Option Key := Key.all.find? fun k => k.name == name

/-- The value of one setting. -/
inductive Value where
  | none
  | flag (b : Bool)
  | number (n : Int)
  | text (s : String)
  deriving DecidableEq, Repr

def Value.toJson : Value → Json
  | .none => .null
  | .flag b => .bool b
  | .number n => .int n
  | .text s => .str s

def Value.ofNat? : Option Nat → Value
  | some n => .number n
  | .none => .none

def get (s : Settings) : Key → Value
  | .strict => .flag s.strict
  | .scheme => .text s.scheme.name
  | .shardCount => .ofNat? s.shardCount
  | .matchMode => .text s.matchMode.name
  | .resultLimit => .ofNat? s.resultLimit
  | .loadWorkers => .number s.loadWorkers
  | .style => .text s.style

def toMembers (s : Settings) : Json.Members := Key.all.map fun k => (k.name, (s.get k).toJson)

/-! ### Reading -/

/-- Lower-case ASCII letters. No other character has the lower case of a letter in one of the
words that settings are made of. -/
def lower (s : List Char) : String := String.ofList (s.map Char.toLower)

/-- A whole number above zero; a truth value is no number. -/
def positive? : Option Json → Option Nat
  | some (.int n) => if 0 < n then some n.toNat else none
  | _ => none

/-- One of several words, in any case and with blanks around it. -/
def choice {α : Type} (ofName? : String → Option α) (default : α) : Option Json → α
  | some (.str s) => (ofName? (lower (Unicode.trim s.toList))).getD default
  | _ => default

/-- Text that is not blank, without the blanks around it. -/
def trimmed (default : String) : Option Json → String
  | some (.str s) =>
    let t := Unicode.trim s.toList
    if t = [] then default else String.ofList t
  | _ => default

def ofMembers (m : Json.Members) : Settings :=
  let scheme := choice Partition.Scheme.ofName? default.scheme (m.get? "scheme")
  { strict := match m.get? "strict" with
      | some (.bool b) => b
      | _ => default.strict
    scheme := scheme
    shardCount := if scheme = .alpha then none else positive? (m.get? "shard_count")
    matchMode := choice MatchMode.ofName? default.matchMode (m.get? "match_mode")
    resultLimit := positive? (m.get? "result_limit")
    loadWorkers := (positive? (m.get? "load_workers")).getD default.loadWorkers
    style := trimmed default.style (m.get? "style") }

/-! ### Changing -/

inductive UpdateError where
  | unknownKey (given : String)
  | notFlag (key : Key) (given : String)
  | notNumber (key : Key) (given : String)
  | invalid (key : Key) (given : String)
  deriving DecidableEq, Repr

def UpdateError.message : UpdateError → String
  | .unknownKey given => "unknown setting " ++ Text.quoted given ++ "; expected one of: " ++
      ", ".intercalate (Key.all.map Key.name)
  | .notFlag key given => key.name ++ " expects true or false, got " ++ Text.quoted given
  | .notNumber key given => key.name ++ " expects an integer, got " ++ Text.quoted given
  | .invalid key given => "invalid value for " ++ key.name ++ ": " ++ Text.quoted given

def flag? (word : String) : Option Bool :=
  if word ∈ ["true", "yes", "on", "1"] then some true
  else if word ∈ ["false", "no", "off", "0"] then some false
  else none

def isNoneWord (word : String) : Bool := word ∈ ["none", "null", ""]

/-- The value that a text stands for. -/
def parseValue (key : Key) (given : String) : Except UpdateError Value :=
  let text := Unicode.trim given.toList
  let number : Except UpdateError Value :=
    match Text.Numeral.read? text with
    | some n => .ok (.number n)
    | .none => .error (.notNumber key given)
  match key with
  | .strict =>
    match flag? (lower text) with
    | some b => .ok (.flag b)
    | .none => .error (.notFlag key given)
  | .shardCount | .resultLimit => if isNoneWord (lower text) then .ok .none else number
  | .loadWorkers => number
  | .scheme | .matchMode => .ok (.text (lower text))
  | .style => .ok (.text (String.ofList text))

/-- The settings with one of them changed. -/
def update (s : Settings) (name given : String) : Except UpdateError Settings :=
  match Key.ofName? name with
  | .none => .error (.unknownKey name)
  | some key => do
    let value ← parseValue key given
    let updated := ofMembers (s.toMembers.put key.name value.toJson)
    if updated.get key = value then return updated else throw (.invalid key given)

end Settings

end SymbolIndex
