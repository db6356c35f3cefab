import SymbolIndex.CommandLine.Command
import SymbolIndex.Record.File
import SymbolIndex.SearchData.Basic
import SymbolIndex.Session.Play
import SymbolIndex.Settings.File
import SymbolIndex.Store
import SymbolIndex.Terminal.Listing
import SymbolIndex.Terminal.Pretty

/-!
# Running commands

`Command.run` is what each command does to the world and what it prints; `run` is the whole
program, from its arguments to the way it ends.
-/

namespace SymbolIndex.CommandLine

open World

/-! ### Failures -/

/-- Why a command gives up. -/
inductive Failure where
  | noInput (path : String)
  | records (e : Record.FileError)
  | text (e : File.TextError)
  | searchData (path : String) (e : SearchData.Error)
  | partition (e : Partition.OptionError)
  | rejected (r : Record.Rejection)
  | store (e : Store.Error)
  | noShard (id : String)
  | shard (e : Shard.ReadError)
  | unreadable (e : Json.ReadError)
  | unknownSetting (key : String)
  | update (e : Settings.UpdateError)
  | noOutput
  | noShardCount
  | noLimit

def Failure.file (e : File.Error) : Failure := .text (.file e)

/-- What is wrong, apart from the program's name in front of it. -/
def Failure.message : Failure → String
  | .noInput path => "Path not found: " ++ path
  | .records e => e.message
  | .text e => e.message
  | .searchData path e => match e with
    | .unreadable (.hugeInteger _) | .hugeReference _ | .unencodable _ => e.message
    | _ => path ++ ": unreadable searchData file: " ++ e.message
  | .partition e => e.message
  | .rejected r => r.message
  | .store e => e.message
  | .noShard id => "Shard not found: " ++ id
  | .shard e => e.message
  | .unreadable e => e.message
  | .unknownSetting key => "Unknown setting: " ++ key
  | .update e => e.message
  | .noOutput => "'list' object has no attribute 'mkdir'"
  | .noShardCount => "'<=' not supported between instances of 'list' and 'int'"
  | .noLimit => "'>' not supported between instances of 'list' and 'int'"

/-- How the program reacts to a failure: it stops with the bare message, it stops with its name
in front of the message, or it breaks down, since the failure is none that it is made for. -/
inductive Reaction where
  | stop
  | report
  | breakDown
  deriving DecidableEq, Repr

def Reaction.ofFileError : File.Error → Reaction
  | .refused .. | .deviceFull => .report
  | .nullCharacter => .breakDown

def Reaction.ofTextError : File.TextError → Reaction
  | .file e => .ofFileError e
  | .notUtf8 .. => .report

def Reaction.ofJsonError : Json.ReadError → Reaction
  | .malformed .. => .report
  | .hugeInteger _ => .breakDown

def Reaction.ofDocumentError : Document.Error → Reaction
  | .unreadable e => .ofJsonError e
  | _ => .report

def Failure.reaction : Failure → Reaction
  | .noInput _ | .noShard _ | .unknownSetting _ => .stop
  | .records (.text e) | .text e | .store (.text e) => .ofTextError e
  | .records (.unreadable _ e) | .searchData _ (.unreadable e) => .ofJsonError e
  | .store (.manifest (.document e)) | .shard (.document e) => .ofDocumentError e
  | .store .hugeNumber | .searchData _ (.hugeReference _) | .searchData _ (.unencodable _) |
    .partition _ | .unreadable _ => .breakDown
  | .noOutput | .noShardCount | .noLimit => .breakDown
  | _ => .report

/-! ### Commands -/

def logger : String := "docsearch.cli"

/-- What a command prints, the warnings it gives, the status it ends with, and whether the text is
to be coloured, which is left to the terminal. -/
structure Output where
  text : String
  warnings : List String
  status : Nat
  isColored : Bool
  deriving DecidableEq, Repr

def Output.ofText (text : String) : Output := ⟨text, [], 0, false⟩

/-- The records of an input file. -/
def readInput (onlySearchData : Bool) (p : File.Path) : Effect Failure (List Record) := do
  if !(← onDisk Failure.file (File.Effect.doesExist p)) then throw (.noInput p.toString)
  if onlySearchData || p.suffix == ".js" then
    let text ← readText .text p
    ofExcept (.searchData p.toString) (SearchData.read text)
  else (Record.ofFile p).adapt .records

/-- The records of all input files behind those that were read before. -/
def readInputs (onlySearchData : Bool) (before : List Record) :
    List File.Path → Effect Failure (List Record)
  | [] => return before
  | p :: rest => do
    let records := before ++ (← readInput onlySearchData p)
    note logger .debug s!"read {p.toString} ({records.length} records so far)"
    readInputs onlySearchData records rest

/-- The partition that the options ask for, or else the settings. A shard count says nothing
about the alphabetic one. -/
def choosePartition (s : Settings) (o : BuildOptions) : Except Failure Partition :=
  let scheme := o.scheme.getD s.scheme
  let count := if scheme = .alpha then none else o.shardCount.value? <|> s.shardCount
  if scheme ≠ .alpha ∧ o.shardCount = .noValue then .error .noShardCount
  else (Partition.ofScheme scheme (count.map Int.ofNat)).mapError .partition

/-- A value that a command cannot do without. -/
def need {α : Type} (f : Failure) : Option α → Effect Failure α
  | some a => return a
  | none => throw f

def runBuild (s : Settings) (inputs : List File.Path) (out : Option File.Path)
    (o : BuildOptions) : Effect Failure Output := do
  let records ← readInputs o.onlySearchData [] inputs
  let p ← ofExcept id (choosePartition s o)
  let b ← ofExcept .rejected (Build.run (s.strict && !o.isLenient) p records)
  (Store.buildLog b).forM fun l => note l.logger l.level l.message
  let out ← need .noOutput out
  let _ ← (Store.write b out).adapt .store
  return .ofText (s!"{b.entryCount} entries in {b.shards.length} shards written to " ++
    s!"{out.toString} ({b.rejected.length} records rejected)\n")

/-- The lines that the loads of a session leave in the log. -/
def loadLog (s : Session) : List LogLine :=
  let logger := "docsearch.search.runtime"
  s.fetched.flatMap fun id =>
    ⟨logger, .debug, "loading shard " ++ id⟩ ::
      match (s.stage id).failure? with
      | some reason => [⟨logger, .warning, s!"shard {id} failed to load: {reason}"⟩]
      | none => []

def runQuery (s : Settings) (index : File.Path) (text : String) (atStart : Bool)
    (limit : Choice Nat) : Effect Failure Output := do
  let source ← (Store.openIndex index).adapt .store
  let setup : Setup := {
    source := source
    mode := if atStart then .start else s.matchMode
    limit := (limit.value? <|> s.resultLimit).map Int.ofNat
    workers := s.loadWorkers
    hasListener := false }
  let (session, response) := (Session.start setup).query .none text
  (loadLog session).forM fun l => note l.logger l.level l.message
  if limit = .noValue ∧ response.query ≠ "" then throw .noLimit
  return {
    text := Terminal.listing response.groups
    warnings := response.warnings.map fun w =>
      s!"warning: shard {w.shardId} unavailable: {w.reason}"
    status := if response.results.isEmpty then 1 else 0
    isColored := false }

/-- A missing file means that there is no such shard. -/
def ofFetchError (id : String) : Store.Error → Failure
  | .text (.file (.refused .noEntry _)) => .noShard id
  | e => .store e

def runDisplay (index : File.Path) (id : String) (noColor : Bool) : Effect Failure Output := do
  let root ← (Store.locate index).adapt .store
  let document ← (Store.fetch root id).adapt (ofFetchError id)
  let _ ← ofExcept .shard (Shard.read document)
  let pretty ← ofExcept .unreadable (Terminal.prettyDocument document)
  return { Output.ofText (Terminal.sanitize pretty) with isColored := !noColor }

/-- Writes one shard of an index as a search data file. -/
def exportShard (root out : File.Path) (id : String) : Effect Failure Unit := do
  let document ← (Store.fetch root id).adapt .store
  let shard ← ofExcept .shard (Shard.read document)
  writeText .file (out.child (SearchData.fileName id)) (SearchData.render shard)

def runExport (index : File.Path) (out : Option File.Path) : Effect Failure Output := do
  let root ← (Store.locate index).adapt .store
  let out ← need .noOutput out
  onDisk Failure.file (File.Effect.makeDirectories out)
  let manifest ← (Store.readManifest root).adapt .store
  manifest.shardIds.forM (exportShard root out)
  return .ofText ""

def jsonText (j : Json) : String := String.ofList (Json.pretty true j)

def runSettings (configPath : File.Path) (s : Settings) : SettingsRequest → Effect Failure Output
  | .location => return .ofText (configPath.toString ++ "\n")
  | .all => return .ofText (jsonText (.obj s.toMembers) ++ "\n")
  | .one name =>
    match Settings.Key.ofName? name with
    | some key => return .ofText (jsonText (s.get key).toJson ++ "\n")
    | none => throw (.unknownSetting name)
  | .change name value => do
    let updated ← ofExcept .update (s.update name value)
    (Settings.save configPath updated).adapt .file
    note logger .debug ("saved " ++ name ++ " to " ++ configPath.toString)
    let saved := ((Settings.Key.ofName? name).map updated.get).getD .none
    return .ofText (name ++ " = " ++ jsonText saved.toJson ++ "\n")

/-- What a command does with the settings in force. -/
def Command.run (configPath : File.Path) (s : Settings) : Command → Effect Failure Output
  | .build inputs out options => runBuild s inputs out options
  | .query index text atStart limit => runQuery s index text atStart limit
  | .display index id noColor => runDisplay index id noColor
  | .exportSearchData index out => runExport index out
  | .settings request => runSettings configPath s request

/-! ### The program -/

/-- How the program ends: with a command's output, with a failure, or before any command. -/
inductive Ending where
  | done (output : Output)
  | failed (f : Failure)
  | refused (r : Refusal)

/-- The message that a failure ends the program with. -/
def Failure.exitMessage (f : Failure) : String :=
  match f.reaction with
  | .report => programName ++ ": " ++ f.message
  | .stop | .breakDown => f.message

/-- Whether a line is shown; what a command tells in passing is for verbose invocations. -/
def isShown (isVerbose : Bool) (l : LogLine) : Bool := isVerbose || l.level != .debug

/-- Runs the program with its arguments. Returns how it ends, the lines of the log that are shown,
and the disk it leaves. -/
def run (configPath : File.Path) (d : File.Disk) (arguments : List String) :
    Ending × List LogLine × File.Disk :=
  match Invocation.read arguments with
  | .error r => (.refused r, [], d)
  | .ok ⟨isVerbose, command⟩ =>
    let program : Effect Failure Output := do command.run configPath (← Settings.load configPath)
    let (result, w) := program.run ⟨d, []⟩
    let ending := match result with
      | .ok output => .done output
      | .error f => .failed f
    (ending, w.log.filter (isShown isVerbose), w.disk)

end SymbolIndex.CommandLine
