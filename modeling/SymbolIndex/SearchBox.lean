/-!
# The search box

A search box hands the text typed into it to a background worker. While the worker runs a
query, new requests replace each other and only the newest waits; a response is published only
if no newer request was made before its query ended. A worker goes when nothing waits, and the
next request starts another. `SearchBox.step` is one atomic action, so that `SearchBox.run`
covers every interleaving of the box and its workers.
-/

namespace SymbolIndex

namespace SearchBox

structure Request where
  id : Nat
  text : String
  deriving DecidableEq, Repr

/-- How a query ends: with a response, with one that a newer query has superseded, or with an
error. -/
inductive Ending (ρ : Type) where
  | answered (response : ρ)
  | superseded
  | failed
  deriving DecidableEq, Repr

/-- Where a worker stands. -/
inductive Worker (ρ : Type) where
  | ready
  | querying (request : Request)
  | ended (request : Request) (ending : Ending ρ)
  | publishing (request : Request) (response : ρ)
  | gone
  deriving DecidableEq, Repr

end SearchBox

/-- The state of a box: the workers ever started, whether one is known to be at work, the request
that waits, the number of the newest request, the requests whose queries began, and the responses
published and not yet taken. -/
structure SearchBox (ρ : Type) where
  workers : List (SearchBox.Worker ρ)
  isRunning : Bool
  pending : Option SearchBox.Request
  latest : Nat
  begun : List SearchBox.Request
  results : List (SearchBox.Request × ρ)
  deriving DecidableEq, Repr

namespace SearchBox

variable {ρ : Type}

def start : SearchBox ρ := ⟨[], false, none, 0, [], []⟩

def setWorker (b : SearchBox ρ) (i : Nat) (w : Worker ρ) : SearchBox ρ :=
  { b with workers := b.workers.set i w }

/-- Makes a request, whose number is `latest` afterwards, and starts a worker if none is at
work. -/
def schedule (b : SearchBox ρ) (text : String) : SearchBox ρ :=
  let id := b.latest + 1
  { b with
    latest := id
    pending := some ⟨id, text⟩
    isRunning := true
    workers := if b.isRunning then b.workers else b.workers ++ [.ready] }

/-- A worker takes the request that waits, or goes. -/
def take (b : SearchBox ρ) (i : Nat) : SearchBox ρ :=
  match b.workers[i]?, b.pending with
  | some .ready, some r =>
    { b.setWorker i (.querying r) with pending := none, begun := b.begun ++ [r] }
  | some .ready, none => { b.setWorker i .gone with isRunning := false }
  | _, _ => b

/-- The query of a worker ends. -/
def finish (b : SearchBox ρ) (i : Nat) (ending : Ending ρ) : SearchBox ρ :=
  match b.workers[i]? with
  | some (.querying r) => b.setWorker i (.ended r ending)
  | _ => b

/-- A worker drops a response that is out of date or superseded, and forgets a failure. -/
def check (b : SearchBox ρ) (i : Nat) : SearchBox ρ :=
  match b.workers[i]? with
  | some (.ended r (.answered response)) =>
    b.setWorker i (if r.id = b.latest then .publishing r response else .ready)
  | some (.ended _ _) => b.setWorker i .ready
  | _ => b

def publish (b : SearchBox ρ) (i : Nat) : SearchBox ρ :=
  match b.workers[i]? with
  | some (.publishing r response) =>
    { b.setWorker i .ready with results := b.results ++ [(r, response)] }
  | _ => b

/-- Takes the published responses out. -/
def drain (b : SearchBox ρ) : SearchBox ρ := { b with results := [] }

/-- What can happen; workers are named by the order in which they were started, from 0. -/
inductive Action (ρ : Type) where
  | schedule (text : String)
  | take (worker : Nat)
  | finish (worker : Nat) (ending : Ending ρ)
  | check (worker : Nat)
  | publish (worker : Nat)
  | drain

def step (b : SearchBox ρ) : Action ρ → SearchBox ρ
  | .schedule text => b.schedule text
  | .take i => b.take i
  | .finish i ending => b.finish i ending
  | .check i => b.check i
  | .publish i => b.publish i
  | .drain => b.drain

def run (b : SearchBox ρ) (actions : List (Action ρ)) : SearchBox ρ := actions.foldl step b

/-! ### One thing at a time -/

/-- The request whose query runs. -/
def current? (b : SearchBox ρ) : Option Request :=
  b.workers.findSome? fun
    | .querying r => some r
    | _ => none

/-- Makes a request and lets the newest worker begin it if it can. -/
def submit (b : SearchBox ρ) (text : String) : SearchBox ρ :=
  let b := b.step (.schedule text)
  b.step (.take (b.workers.length - 1))

/-- Lets the query of the newest worker end, and the worker go on until it runs the next query or
is gone. -/
def release (b : SearchBox ρ) (ending : Ending ρ) : SearchBox ρ :=
  let i := b.workers.length - 1
  b.run [.finish i ending, .check i, .publish i, .take i]

end SearchBox

end SymbolIndex
