import SymbolIndex.Entry
import SymbolIndex.Json.Printer
import SymbolIndex.Match.Selection

/-!
# Matching and ranking

A query matches a key that contains it, or, in the mode `start`, one that begins with it.
Matches are ranked by where the query stands in the key, then by the length of the key, the key,
and the place of the entry in the index, so that short keys and early matches come first.
-/

namespace SymbolIndex

inductive MatchMode where
  | anywhere
  | start
  deriving DecidableEq, Repr

def MatchMode.name : MatchMode → String
  | .anywhere => "substring"
  | .start => "prefix"

def MatchMode.ofName? (name : String) : Option MatchMode :=
  if name = "substring" then some .anywhere else if name = "prefix" then some .start else none

/-- A mode that is none of the two. -/
structure UnknownMode where
  given : Json

def UnknownMode.message (e : UnknownMode) : String := "unknown match mode: " ++ e.given.literal

def MatchMode.ofOption (given : Json) : Except UnknownMode MatchMode :=
  match given with
  | .str name => (MatchMode.ofName? name).elim (.error ⟨given⟩) .ok
  | _ => .error ⟨given⟩

namespace Match

/-- The least offset, counted from `offset`, at which a text contains `q`. -/
def findFrom (q : List Char) (offset : Nat) : List Char → Option Nat
  | [] => if q.isEmpty then some offset else none
  | c :: s => if q.isPrefixOf (c :: s) then some offset else findFrom q (offset + 1) s

/-- Where a query stands in a key. An empty query stands nowhere. -/
def position (mode : MatchMode) (query key : String) : Option Nat :=
  if query = "" then none
  else
    match mode with
    | .anywhere => findFrom query.toList 0 key.toList
    | .start => if query.toList.isPrefixOf key.toList then some 0 else none

/-- An entry and where it comes from: its shard, and the shard's and its own place in order. -/
structure Candidate where
  entry : Entry
  shardId : String
  ordinal : Int × Int
  deriving DecidableEq, Repr

/-- The candidates that match, in the order given. -/
def filter (mode : MatchMode) (query : String) (cs : List Candidate) : List Candidate :=
  cs.filter fun c => (position mode query c.entry.key).isSome

/-- A match: where the query stands in the candidate's key. -/
structure Hit where
  position : Nat
  candidate : Candidate

def hits (mode : MatchMode) (query : String) (cs : List Candidate) : List Hit :=
  cs.filterMap fun c => (position mode query c.entry.key).map (⟨·, c⟩)

def ordinalLe (a b : Int × Int) : Bool := a.1 < b.1 || (a.1 == b.1 && a.2 ≤ b.2)

/-- The order of rank. -/
def Hit.le (a b : Hit) : Bool :=
  let keyA := a.candidate.entry.key
  let keyB := b.candidate.entry.key
  a.position < b.position || (a.position == b.position &&
    (keyA.length < keyB.length || (keyA.length == keyB.length &&
      (decide (keyA < keyB) || (keyA == keyB &&
        ordinalLe a.candidate.ordinal b.candidate.ordinal)))))

/-- The matching candidates in rank order, up to a limit, which is at least one. With a limit the
matches are not sorted as a whole. -/
def rank (mode : MatchMode) (query : String) (limit : Option Int) (cs : List Candidate) :
    List Candidate :=
  let matched := hits mode query cs
  let scored := match limit with
    | some n => smallest Hit.le (max 1 n.toNat) matched
    | none => matched.mergeSort Hit.le
  scored.map (·.candidate)

end Match

end SymbolIndex
