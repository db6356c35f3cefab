import SymbolIndex.Key.Basic
import SymbolIndex.Manifest
import SymbolIndex.Match.Result
import SymbolIndex.Shard

/-!
# Search sessions

A session answers queries over an index whose shards it loads when a query first needs them.
Many queries and many loads may be under way at once, and each of them advances on its own.

The load of a shard is a *stage*: it is requested, announced to the event queue and then to the
listener, queued, fetched, settled with an outcome, and the outcome is announced in the same way.
A query is a *call*: it takes a number, requests its shards, waits for them, checks that no newer
call has begun, reads the matches of the last completed call, matches, and commits.
-/

namespace SymbolIndex

/-- Why a document cannot be had. -/
structure FetchError where
  kind : String
  text : String
  deriving DecidableEq, Repr

/-- The text of a failure, or its kind when it has none. -/
def FetchError.reason (e : FetchError) : String := if e.text = "" then e.kind else e.text

/-- Where a session finds its index. -/
structure Source where
  manifest : Manifest
  fetch : String → Except FetchError String

/-- An index whose documents are at hand, each under the id of its shard. -/
def Source.memory (documents : List (String × String)) (manifest : Manifest) : Source where
  manifest := manifest
  fetch id :=
    match documents.find? fun d => d.1 == id with
    | some (_, text) => .ok text
    | none => .error ⟨"FileNotFoundError", "no shard named " ++ Text.quoted id⟩

namespace Session

/-! ### Loads -/

inductive LoadState where
  | unloaded
  | loading
  | ready
  | failed
  deriving DecidableEq, Repr

def LoadState.name : LoadState → String
  | .unloaded => "unloaded"
  | .loading => "loading"
  | .ready => "ready"
  | .failed => "failed"

/-- The loaded shard, or why it could not be loaded. -/
abbrev Outcome := Except String Shard

/-- Who knows of a change of state: nobody, the event queue, or the listener too. -/
inductive Told where
  | nobody
  | queue
  | everyone
  deriving DecidableEq, Repr

inductive Stage where
  | unloaded
  | requested (told : Told)
  | queued
  | fetching
  | settled (outcome : Outcome) (told : Told)

def Stage.state : Stage → LoadState
  | .unloaded => .unloaded
  | .requested _ | .queued | .fetching => .loading
  | .settled (.ok _) _ => .ready
  | .settled (.error _) _ => .failed

/-- Whether those who wait for the load may go on. -/
def Stage.isResolved : Stage → Bool
  | .settled _ .everyone => true
  | _ => false

def Stage.shard? : Stage → Option Shard
  | .settled (.ok s) _ => some s
  | _ => none

def Stage.failure? : Stage → Option String
  | .settled (.error reason) _ => some reason
  | _ => none

structure Event where
  shardId : String
  state : LoadState
  failure : Option String
  deriving DecidableEq, Repr

def Outcome.event (id : String) : Outcome → Event
  | .ok _ => ⟨id, .ready, none⟩
  | .error reason => ⟨id, .failed, some reason⟩

/-! ### Calls -/

/-- The last completed call: its query, the shards it covered and the candidates that matched. -/
structure Snapshot where
  query : String
  shardIds : List String
  matched : List Match.Candidate
  deriving DecidableEq, Repr

structure Warning where
  shardId : String
  reason : String
  deriving DecidableEq, Repr

structure Response where
  query : String
  results : List Match.Result
  warnings : List Warning
  superseded : Bool
  generation : Nat
  deriving DecidableEq, Repr

def Response.blank (generation : Nat) : Response := ⟨"", [], [], false, generation⟩

def Response.outdated (query : String) (generation : Nat) : Response :=
  ⟨query, [], [], true, generation⟩

def Response.groups (r : Response) : List Match.Group := Match.group r.results

inductive Phase where
  | requesting (left : List String)
  | waiting
  | current
  | reading (last : Option Snapshot) (warnings : List Warning)
  | matched (snapshot : Snapshot) (warnings : List Warning)
  | finished (response : Response)
  deriving DecidableEq, Repr

/-- A query under way. Its generation is its number among all calls, from 1. -/
structure Call where
  generation : Nat
  query : String
  targets : List String
  phase : Phase
  deriving DecidableEq, Repr

def Call.response? (c : Call) : Option Response :=
  match c.phase with
  | .finished r => some r
  | _ => none

end Session

/-- What stays fixed while a session runs. At most `workers` fetches go on at once, and at least
one can. -/
structure Setup where
  source : Source
  mode : MatchMode
  limit : Option Int
  workers : Int
  hasListener : Bool

/-- A session: the shards of the manifest with their stages, the calls in the order in which they
began, the last completed call, the events not yet drained, the events that the listener got, and
the ids fetched. -/
structure Session where
  setup : Setup
  shards : List (String × Session.Stage)
  calls : List Session.Call
  last : Option Session.Snapshot
  queue : List Session.Event
  heard : List Session.Event
  fetched : List String
  closed : Bool

namespace Session

def start (setup : Setup) : Session where
  setup := setup
  shards := setup.source.manifest.shardIds.eraseDups.map (·, .unloaded)
  calls := []
  last := none
  queue := []
  heard := []
  fetched := []
  closed := false

/-- Why a session cannot be opened. -/
inductive OpenError where
  | mode (e : UnknownMode)
  | partition (e : Partition.OptionError)

def OpenError.message : OpenError → String
  | .mode e => e.message
  | .partition e => e.message

/-- A session in the mode of a name, with the partition that the scheme and the shard count of the
manifest ask for. -/
def ofOptions (source : Source) (mode : Json) (limit : Option Int) (workers : Int)
    (hasListener : Bool) : Except OpenError Session := do
  let mode ← (MatchMode.ofOption mode).mapError .mode
  let m := source.manifest
  let partition ← (Partition.ofOptions (.str m.partition.scheme.name)
    (m.partition.shardCount?.map Int.ofNat)).mapError .partition
  return start ⟨{ source with manifest := { m with partition } }, mode, limit, workers,
    hasListener⟩

def manifest (s : Session) : Manifest := s.setup.source.manifest

/-- The number of the newest call. -/
def generation (s : Session) : Nat := s.calls.length

def call? (s : Session) (generation : Nat) : Option Call :=
  s.calls.find? fun c => c.generation == generation

def isKnown (s : Session) (id : String) : Bool := s.shards.any fun e => e.1 == id

def stage (s : Session) (id : String) : Stage :=
  match s.shards.find? fun e => e.1 == id with
  | some (_, stage) => stage
  | none => .unloaded

def state (s : Session) (id : String) : LoadState := (s.stage id).state

/-- The shards a query has to look at. -/
def targets (s : Session) (query : String) : List String :=
  match s.setup.mode with
  | .anywhere => s.manifest.shardIds
  | .start => (s.manifest.partition.idsFor query).filter s.isKnown

/-! ### Candidates -/

/-- The place of a shard in the manifest, the last one if it is listed more than once. -/
def orderOf (s : Session) (id : String) : Nat :=
  let ids := s.manifest.shardIds
  ids.length - 1 - ids.reverse.idxOf id

def shardCandidates (order : Nat) (shard : Shard) : List Match.Candidate :=
  shard.entries.mapIdx fun i e => ⟨e, shard.id, (order, i)⟩

/-- The entries of the ready shards among some, in the order of the manifest. -/
def candidates (s : Session) (ids : List String) : List Match.Candidate :=
  let ready := ids.filterMap fun id => (s.stage id).shard?
  let ordered := (ready.map fun shard => (s.orderOf shard.id, shard)).mergeSort
    fun a b => a.1 ≤ b.1
  ordered.flatMap fun (order, shard) => shardCandidates order shard

/-- The failures of some shards. -/
def warnings (s : Session) (ids : List String) : List Warning :=
  ids.filterMap fun id => (s.stage id).failure?.map (⟨id, ·⟩)

end Session

end SymbolIndex
