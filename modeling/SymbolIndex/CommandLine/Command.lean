import SymbolIndex.CommandLine.Arguments
import SymbolIndex.File.Path
import SymbolIndex.Partition.Basic

/-!
# Commands

What can be asked for on a command line. `Invocation.read` finds the command that arguments stand
for.
-/

namespace SymbolIndex.CommandLine

/-! ### What can be asked for -/

/-- How an index is to be built; what is left open the settings decide. -/
structure BuildOptions where
  isLenient : Bool
  scheme : Option Partition.Scheme
  shardCount : Choice Nat
  onlySearchData : Bool
  deriving DecidableEq, Repr

inductive SettingsRequest where
  | location
  | all
  | one (key : String)
  | change (key value : String)
  deriving DecidableEq, Repr

/-- An output directory is missing if the switch for it lacks its value. -/
inductive Command where
  | build (inputs : List File.Path) (out : Option File.Path) (options : BuildOptions)
  | query (index : File.Path) (text : String) (atStart : Bool) (limit : Choice Nat)
  | display (index : File.Path) (shardId : String) (noColor : Bool)
  | exportSearchData (index : File.Path) (out : Option File.Path)
  | settings (request : SettingsRequest)
  deriving DecidableEq, Repr

/-- A command, and whether it is to tell what it does. -/
structure Invocation where
  isVerbose : Bool
  command : Command
  deriving DecidableEq, Repr

/-! ### Verbs and their grammars -/

inductive Verb where
  | build
  | query
  | display
  | exportSearchData
  | settings
  deriving DecidableEq, Repr

namespace Verb

def all : List Verb := [.build, .query, .display, .exportSearchData, .settings]

def name : Verb → String
  | .build => "build"
  | .query => "query"
  | .display => "show"
  | .exportSearchData => "export-doxygen"
  | .settings => "config"

def ofName? (name : String) : Option Verb := all.find? fun v => v.name == name

def grammar : Verb → Grammar
  | .build => ⟨[⟨"inputs", .many⟩], [.help, .required "--out" .text, .flag "--lenient",
      .value "--scheme" (.oneOf ["alpha", "hashed"]), .value "--shard-count" .positive,
      .flag "--doxygen"]⟩
  | .query => ⟨[⟨"index", .one⟩, ⟨"text", .many⟩],
      [.help, .flag "--prefix", .value "--limit" .positive]⟩
  | .display => ⟨[⟨"index", .one⟩, ⟨"shard", .one⟩],
      [.help, .value "--style" .text, .flag "--no-color"]⟩
  | .exportSearchData => ⟨[⟨"index", .one⟩], [.help, .required "--out" .text]⟩
  | .settings => ⟨[⟨"key", .optional⟩, ⟨"value", .optional⟩], [.help, .flag "--path"]⟩

end Verb

/-- The grammar in front of the verb. -/
def outerGrammar : Grammar :=
  ⟨[⟨"command", .everything⟩], [.help, ⟨"--verbose", some 'v', .flag⟩]⟩

/-! ### Reading -/

/-- The path that a name was given. -/
def Arguments.path? (a : Arguments) (name : String) : Option File.Path :=
  (a.text? name).map File.Path.ofString

def Arguments.index (a : Arguments) : File.Path :=
  (a.path? "index").getD (File.Path.ofString "")

def SettingsRequest.ofArguments (a : Arguments) : SettingsRequest :=
  if a.has "--path" then .location
  else
    match a.text? "key", a.text? "value" with
    | none, _ => .all
    | some key, none => .one key
    | some key, some value => .change key value

/-- The command of a verb with arguments that its grammar accepts. -/
def Command.ofArguments (a : Arguments) : Verb → Command
  | .build => .build ((a.texts "inputs").map File.Path.ofString) (a.path? "--out") {
      isLenient := a.has "--lenient"
      scheme := (a.text? "--scheme").bind Partition.Scheme.ofName?
      shardCount := a.number "--shard-count"
      onlySearchData := a.has "--doxygen" }
  | .query => .query a.index (" ".intercalate (a.texts "text")) (a.has "--prefix")
      (a.number "--limit")
  | .display => .display a.index ((a.text? "shard").getD "") (a.has "--no-color")
  | .exportSearchData => .exportSearchData a.index (a.path? "--out")
  | .settings => .settings (.ofArguments a)

/-- Why arguments stand for no command; an error comes with the words it is about. -/
inductive Refusal where
  | help
  | usage (context : List String) (e : UsageError)
  deriving DecidableEq, Repr

def programName : String := "docsearch"

/-- The last line that a refusal leaves on the screen. -/
def Refusal.message : Refusal → String
  | .help => ""
  | .usage context e => " ".intercalate context ++ ": error: " ++ e.message

def Refusal.of (context : List String) : Stop → Refusal
  | .help => .help
  | .usage e => .usage context e

def Invocation.read (arguments : List String) : Except Refusal Invocation := do
  let outer ← (outerGrammar.read arguments).mapError (.of [programName])
  match outer.texts "command" with
  | [] => throw (.usage [programName] (.missing ["command"]))
  | name :: rest =>
    match Verb.ofName? name with
    | none =>
      throw (.usage [programName] (.argument "command" (.notOneOf name (Verb.all.map Verb.name))))
    | some verb =>
      let inner ← (verb.grammar.read rest).mapError (.of [programName, name])
      match outer.extras ++ inner.extras with
      | [] => return ⟨outer.has "--verbose", .ofArguments inner verb⟩
      | extras => throw (.usage [programName] (.unrecognized extras))

end SymbolIndex.CommandLine
