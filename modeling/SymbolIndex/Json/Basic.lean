import SymbolIndex.Number.Binary64

/-!
# JSON values

Numbers without a fraction and an exponent are whole numbers of any size; the others are binary
floating point, which includes infinities and the value that is not a number. The members of an
object keep the order in which their names first occurred.
-/

namespace SymbolIndex

inductive Json where
  | null
  | bool (b : Bool)
  | int (n : Int)
  | float (x : Number.Binary64)
  | str (s : String)
  | arr (items : List Json)
  | obj (members : List (String × Json))
  deriving Inhabited

namespace Json

abbrev Members := List (String × Json)

/-- The value of a name. -/
def Members.get? (m : Members) (name : String) : Option Json :=
  (m.find? fun e => e.1 == name).map (·.2)

/-- Gives a name a value, in its old place if it has one. -/
def Members.put : Members → String → Json → Members
  | [], name, v => [(name, v)]
  | (n, old) :: rest, name, v =>
    if n = name then (n, v) :: rest else (n, old) :: Members.put rest name v

theorem Members.get?_put_self (m : Members) (name : String) (v : Json) :
    (m.put name v).get? name = some v := by
  induction m with
  | nil => simp [put, get?]
  | cons e rest ih =>
    obtain ⟨n, old⟩ := e
    by_cases h : n = name
    · simp [put, get?, h]
    · simpa [put, get?, h] using ih

theorem Members.get?_put_of_ne (m : Members) {name other : String} (v : Json)
    (h : other ≠ name) : (m.put name v).get? other = m.get? other := by
  induction m with
  | nil => simp [put, get?, h.symm]
  | cons e rest ih =>
    obtain ⟨n, old⟩ := e
    by_cases hn : n = name
    · subst hn; simp [put, get?, h.symm]
    · by_cases ho : n = other
      · subst ho; simp [put, get?, hn]
      · simpa [put, get?, hn, ho] using ih

/-- The members left when a later value of a name replaces the earlier one. -/
def Members.ofList (l : List (String × Json)) : Members :=
  l.foldl (fun m e => m.put e.1 e.2) []

/-- Whether a value is the number one; `true` counts as one. -/
def isOne : Json → Bool
  | .int n => n == 1
  | .bool b => b
  | .float x => x == .one
  | _ => false

end Json

end SymbolIndex
