import SymbolIndex.Session.Step

/-!
# Playing a session

The plain order of events, for a client that asks one thing at a time: a query requests its
shards one after the other, every load runs to its end, and the query goes on to its answer.
`Interference` says where blank queries are slipped in between; they take a number and so
supersede the query that is under way.
-/

namespace SymbolIndex.Session

/-- Where a blank query is slipped in: by the listener for each shard that begins to load, in
front of the first fetch that a query causes, or in front of its commit. -/
structure Interference where
  onLoading : Bool
  onFetch : Bool
  beforeCommit : Bool
  deriving DecidableEq, Repr

def Interference.none : Interference := ⟨false, false, false⟩

def slipIn (s : Session) (here : Bool) : Session := if here then s.step (.begin "") else s

/-- Announces a shard that was just requested and queues its load. -/
def announce (s : Session) (onLoading : Bool) (id : String) : Session :=
  match s.stage id with
  | .requested .nobody =>
    let told := (s.step (.advanceLoad id)).step (.advanceLoad id)
    (told.slipIn onLoading).step (.advanceLoad id)
  | _ => s

/-- Runs a load to its end. A load has fewer than eight steps. -/
def finishLoad (s : Session) (id : String) : Session :=
  s.run (List.replicate 8 (.advanceLoad id))

def finishLoads (s : Session) (ids : List String) : Session := ids.foldl finishLoad s

/-- Requests the shards of a call, one after the other. -/
def requestAll (s : Session) (i : Interference) (generation : Nat) (ids : List String) :
    Session :=
  ids.foldl (fun s id => (s.step (.advanceCall generation)).announce i.onLoading id) s

def isQueued (s : Session) (id : String) : Bool :=
  match s.stage id with
  | .queued => true
  | _ => false

/-- Whether a call has matched and is about to commit. -/
def isMatched (s : Session) (generation : Nat) : Bool :=
  match s.call? generation with
  | some ⟨_, _, _, .matched ..⟩ => true
  | _ => false

/-- Runs a query to its answer. -/
def query (s : Session) (i : Interference) (text : String) : Session × Response :=
  let s := s.step (.begin text)
  let generation := s.generation
  let targets := ((s.call? generation).map (·.targets)).getD []
  let s := s.requestAll i generation targets
  let s := s.step (.advanceCall generation)
  let s := s.slipIn (i.onFetch && targets.any s.isQueued)
  let s := s.finishLoads targets
  let s := s.run (List.replicate 3 (.advanceCall generation))
  let s := s.slipIn (i.beforeCommit && s.isMatched generation)
  let s := s.step (.advanceCall generation)
  (s, ((s.call? generation).bind Call.response?).getD (.outdated "" generation))

/-- Loads the known shards among some, or all; for each of them, its id if it is ready. -/
def preload (s : Session) (i : Interference) (ids : Option (List String)) :
    Session × List (Option String) :=
  let ids := (ids.getD s.manifest.shardIds).filter s.isKnown
  let s := ids.foldl (fun s id => (s.step (.request id)).announce i.onLoading id) s
  let s := s.finishLoads ids
  (s, ids.map fun id => if (s.stage id).shard?.isSome then some id else none)

end SymbolIndex.Session
