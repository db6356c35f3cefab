import SymbolIndex.Proofs.Build.Layout

/-!
# Strict and lenient builds

The strict build stops at the first rejection of the lenient one and otherwise is the lenient
one (`strict_eq`). What the lenient build indexes is what the strict build makes of the valid
records alone, although they have other numbers there: no two keys of a shard have one sort text
(`pairwise_sortText`), so which of two keys was met first never decides their order.
-/

namespace SymbolIndex.Build

variable {p : Partition} {records : List Record}

/-- Validation in order stops at the first rejection, if there is one. -/
theorem mapM_validateFrom_eq (n : Nat) (records : List Record) :
    (validateFrom n records).mapM id =
      match ((records.zipIdx n).filterMap fun r => r.1.rejection? r.2).head? with
      | some x => .error x
      | none => .ok (validEntries records) := by
  induction records generalizing n with
  | nil => rfl
  | cons r rest ih =>
    have hentries : validEntries (r :: rest) =
        (r.validate (some (n : Int))).toOption.toList ++ validEntries rest := by
      rw [Record.toOption_validate, validEntries, List.filterMap_cons]
      cases r.valid? <;> rfl
    rw [validateFrom, List.mapM_cons, ih, hentries, List.zipIdx_cons, List.filterMap_cons,
      Record.rejection?]
    cases r.validate (some (n : Int)) with
    | error x => rfl
    | ok e =>
      cases ((rest.zipIdx (n + 1)).filterMap fun r => r.1.rejection? r.2).head? <;> rfl

/-- The strict build is the lenient one if that rejects nothing, else its first rejection. -/
theorem strict_eq (p : Partition) (records : List Record) :
    strict p records =
      match (lenient p records).rejected.head? with
      | some x => .error x
      | none => .ok (lenient p records) := by
  rw [strict, mapM_validateFrom_eq, lenient_eq, ofEntries]
  cases records.zipIdx.filterMap fun r => r.1.rejection? r.2 with
  | nil => rfl
  | cons x rest => rfl

theorem strict_eq_ok {c : Build} :
    strict p records = .ok c ↔ (lenient p records).rejected = [] ∧ c = lenient p records := by
  rw [strict_eq]
  cases (lenient p records).rejected with
  | nil => simp [eq_comm]
  | cons x rest => simp

theorem strict_eq_error {x : Record.Rejection} :
    strict p records = .error x ↔ (lenient p records).rejected.head? = some x := by
  rw [strict_eq]
  cases (lenient p records).rejected with
  | nil => simp
  | cons y rest => simp

/-! ### Agreement -/

/-- The strict build gives a result exactly if the lenient one rejects nothing, and then the same;
its error is the first rejection of the lenient one. The lenient build has the shards and the
manifest of the strict build of the valid records, and no order of its keys is left to the
numbers of the records. -/
theorem strict_agrees_with_lenient (p : Partition) (records : List Record) :
    let b := lenient p records
    (∀ c, strict p records = .ok c ↔ b.rejected = [] ∧ c = b) ∧
    (∀ x, strict p records = .error x ↔ b.rejected.head? = some x) ∧
    (∃ c, strict p (records.filter fun r => r.valid?.isSome) = .ok c ∧
      c.shards = b.shards ∧ c.manifest = b.manifest) ∧
    ∀ s ∈ b.shards, (s.keys.map Key.sortText).Pairwise (· < ·) := by
  refine ⟨fun c => strict_eq_ok, fun x => strict_eq_error,
    ⟨_, strict_eq_lenient fun r hr => (List.mem_filter.1 hr).2, ?_, ?_⟩,
    fun s hs => pairwise_sortText hs⟩
  · rw [shards_lenient, shards_lenient, validEntries_filter]
  · rw [lenient_eq, lenient_eq p records, ofEntries, ofEntries, validEntries_filter]

end SymbolIndex.Build
