import SymbolIndex.Match.Result
import SymbolIndex.Terminal.Sanitize

/-!
# Result listings

A row for each group and, indented, one for each of its results.
-/

namespace SymbolIndex.Terminal

def resultRow (r : Match.Result) : String :=
  let scope := sanitize r.scopeLabel
  "    " ++ (if scope = "" then "-" else scope) ++ "  " ++ sanitize r.anchorUrl

def groupRows (g : Match.Group) : List String :=
  sanitize g.displayName :: g.results.map resultRow

def listing (gs : List Match.Group) : String :=
  let rows := gs.flatMap groupRows
  if rows.isEmpty then "" else "\n".intercalate rows ++ "\n"

end SymbolIndex.Terminal
