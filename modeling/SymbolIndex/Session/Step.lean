import SymbolIndex.Session.Basic

/-!
# Steps of a session

`Session.step` is one atomic action: a call or a load that is under way advances by one step, a
new one begins, or the session is closed. Any list of actions is a run, so `Session.run` covers
every interleaving of calls and loads. An action that cannot happen changes nothing.
-/

namespace SymbolIndex.Session

/-! ### Loads -/

def setStage (s : Session) (id : String) (stage : Stage) : Session :=
  { s with shards := s.shards.map fun e => if e.1 == id then (e.1, stage) else e }

/-- Puts an event into the queue. -/
def enqueue (s : Session) (e : Event) : Session := { s with queue := s.queue ++ [e] }

/-- Gives an event to the listener, if there is one. -/
def tell (s : Session) (e : Event) : Session :=
  if s.setup.hasListener then { s with heard := s.heard ++ [e] } else s

/-- Asks for a shard; only the first request counts. -/
def request (s : Session) (id : String) : Session :=
  match s.stage id with
  | .unloaded => s.setStage id (.requested .nobody)
  | _ => s

def shutdownReason : String := "cannot schedule new futures after shutdown"

/-- The outcome of loading a shard. -/
def load (source : Source) (id : String) : Outcome :=
  match source.fetch id with
  | .error e => .error e.reason
  | .ok text =>
    match Shard.read text with
    | .error e => .error e.message
    | .ok shard =>
      if shard.id = id then .ok shard
      else .error ("document holds shard " ++ Text.quoted shard.id)

def fetchCount (s : Session) : Nat :=
  s.shards.countP fun e => match e.2 with
    | .fetching => true
    | _ => false

/-- The next step of the load of a shard. -/
def advanceLoad (s : Session) (id : String) : Session :=
  match s.stage id with
  | .unloaded => s
  | .requested .nobody => (s.enqueue ⟨id, .loading, none⟩).setStage id (.requested .queue)
  | .requested .queue => (s.tell ⟨id, .loading, none⟩).setStage id (.requested .everyone)
  | .requested .everyone =>
    s.setStage id (if s.closed then .settled (.error shutdownReason) .nobody else .queued)
  | .queued =>
    if s.fetchCount < max 1 s.setup.workers.toNat then
      { s.setStage id .fetching with fetched := s.fetched ++ [id] }
    else s
  | .fetching => s.setStage id (.settled (load s.setup.source id) .nobody)
  | .settled o .nobody => (s.enqueue (o.event id)).setStage id (.settled o .queue)
  | .settled o .queue => (s.tell (o.event id)).setStage id (.settled o .everyone)
  | .settled _ .everyone => s

/-! ### Calls -/

/-- Begins a call. A query without key characters is answered at once. -/
def begin (s : Session) (text : String) : Session :=
  let generation := s.generation + 1
  let query := Key.normalize text
  let call : Call :=
    if query = "" then ⟨generation, query, [], .finished (.blank generation)⟩
    else ⟨generation, query, s.targets query, .requesting (s.targets query)⟩
  { s with calls := s.calls ++ [call] }

def setPhase (s : Session) (generation : Nat) (phase : Phase) : Session :=
  { s with calls := s.calls.map fun c =>
      if c.generation == generation then { c with phase := phase } else c }

/-- What a call matches: among the matches of the last completed call if its query extends that
call's and its targets are among that call's shards, else among the candidates of its targets. -/
def matchesFor (s : Session) (last : Option Snapshot) (c : Call) : Snapshot :=
  let scan : Snapshot :=
    ⟨c.query, c.targets, Match.filter s.setup.mode c.query (s.candidates c.targets)⟩
  match last with
  | none => scan
  | some l =>
    if l.query.toList.isPrefixOf c.query.toList ∧ ∀ id ∈ c.targets, id ∈ l.shardIds then
      ⟨c.query, l.shardIds, Match.filter s.setup.mode c.query l.matched⟩
    else scan

def respond (s : Session) (c : Call) (snapshot : Snapshot) (warnings : List Warning) : Response :=
  ⟨c.query, Match.expand (Match.rank s.setup.mode c.query s.setup.limit snapshot.matched),
    warnings, false, c.generation⟩

/-- The next step of a call. -/
def advanceOf (s : Session) (c : Call) : Session :=
  match c.phase with
  | .requesting [] => s.setPhase c.generation .waiting
  | .requesting (id :: left) => (s.request id).setPhase c.generation (.requesting left)
  | .waiting =>
    if c.targets.all fun id => (s.stage id).isResolved then
      if c.generation = s.generation then s.setPhase c.generation .current
      else s.setPhase c.generation (.finished (.outdated c.query c.generation))
    else s
  | .current => s.setPhase c.generation (.reading s.last (s.warnings c.targets))
  | .reading last warnings => s.setPhase c.generation (.matched (s.matchesFor last c) warnings)
  | .matched snapshot warnings =>
    if c.generation = s.generation then
      { s.setPhase c.generation (.finished (s.respond c snapshot warnings)) with
        last := some snapshot }
    else s.setPhase c.generation (.finished (.outdated c.query c.generation))
  | .finished _ => s

def advanceCall (s : Session) (generation : Nat) : Session :=
  match s.call? generation with
  | some c => s.advanceOf c
  | none => s

/-! ### Runs -/

inductive Action where
  | begin (text : String)
  | advanceCall (generation : Nat)
  | request (id : String)
  | advanceLoad (id : String)
  | drain
  | close

def step (s : Session) : Action → Session
  | .begin text => s.begin text
  | .advanceCall generation => s.advanceCall generation
  | .request id => if s.isKnown id then s.request id else s
  | .advanceLoad id => s.advanceLoad id
  | .drain => { s with queue := [] }
  | .close => { s with closed := true }

def run (s : Session) (actions : List Action) : Session := actions.foldl step s

end SymbolIndex.Session
