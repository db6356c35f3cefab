import SymbolIndex.Match.Basic

/-!
# Results

A result is one place to jump to. A group is one row of a listing: the results of one entry that
stand together.
-/

namespace SymbolIndex.Match

structure Result where
  key : String
  displayName : String
  anchorUrl : String
  scopeLabel : String
  shardId : String
  deriving DecidableEq, Repr

structure Group where
  key : String
  displayName : String
  results : List Result
  deriving DecidableEq, Repr

def Candidate.results (c : Candidate) : List Result :=
  c.entry.occurrences.map fun o =>
    ⟨c.entry.key, c.entry.displayName, o.anchorUrl, o.scopeLabel, c.shardId⟩

/-- One result for each occurrence. -/
def expand (cs : List Candidate) : List Result := cs.flatMap Candidate.results

/-- Whether two results belong to one entry. -/
def sameEntry (a b : Result) : Bool := a.key == b.key && a.shardId == b.shardId

/-- Puts a result in front of groups, into the first of them if it belongs there. -/
def addResult (r : Result) : List Group → List Group
  | g :: gs =>
    if (g.results.head?.map (sameEntry r)).getD false then
      ⟨r.key, r.displayName, r :: g.results⟩ :: gs
    else ⟨r.key, r.displayName, [r]⟩ :: g :: gs
  | [] => [⟨r.key, r.displayName, [r]⟩]

/-- The runs of results that belong to one entry. -/
def group (rs : List Result) : List Group := rs.foldr addResult []

end SymbolIndex.Match
