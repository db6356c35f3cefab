/-!
# Index entries
-/

namespace SymbolIndex

/-- One documented place that a symbol name leads to. -/
structure Occurrence where
  anchorUrl : String
  scopeLabel : String
  deriving DecidableEq, Repr

/-- A key with the name it is shown under and every place found under it. -/
structure Entry where
  key : String
  displayName : String
  occurrences : List Occurrence
  deriving DecidableEq, Repr

end SymbolIndex
