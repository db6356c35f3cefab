import Mathlib.Data.List.Range
import SymbolIndex.Proofs.Build.Layout

/-!
# The order of the input

What is merged for a key depends on the records of this key alone, in their order, and dividing the
merged entries forgets the order in which the keys were met. So records may change places as long as
those of one key stay in order among themselves (`build_of_rearranged`).
-/

namespace SymbolIndex.Build

variable {p : Partition} {records records' : List Record} {places : List Nat} {es es' : List Entry}

/-! ### Records in another order -/

/-- The key of the record at a place, if there is a valid one. -/
def keyAt (records : List Record) (i : Nat) : Option String := records[i]?.bind Record.key?

/-- The records at some places, in the order of the places. -/
def rearrange (records : List Record) (places : List Nat) : List Record :=
  places.filterMap (records[·]?)

/-- The places of all records, each once, with those of one key in order. -/
structure KeepsKeyOrder (records : List Record) (places : List Nat) : Prop where
  perm : places.Perm (List.range records.length)
  inOrder : places.Pairwise fun i j =>
    (keyAt records i).isSome → keyAt records i = keyAt records j → i < j

theorem rearrange_range (records : List Record) :
    rearrange records (List.range records.length) = records := by
  induction records with
  | nil => rfl
  | cons r rest ih =>
    rw [rearrange] at ih
    simp [rearrange, List.range_succ_eq_map, List.filterMap_map, ih]

theorem KeepsKeyOrder.rearrange_perm (h : KeepsKeyOrder records places) :
    (rearrange records places).Perm records := by
  conv_rhs => rw [← rearrange_range records]
  exact h.perm.filterMap _

/-- The places of the records with a key. -/
def placesOf (records : List Record) (k : String) (places : List Nat) : List Nat :=
  places.filter fun i => keyAt records i = some k

theorem filter_rearrange (records : List Record) (k : String) (places : List Nat) :
    (rearrange records places).filter (hasKey k) = rearrange records (placesOf records k places) := by
  rw [rearrange, rearrange, placesOf, List.filter_filterMap, List.filterMap_filter]
  refine List.filterMap_congr fun i _ => ?_
  cases hr : records[i]? with
  | none => simp
  | some r => by_cases hk : r.key? = some k <;> simp [Option.filter, keyAt, hr, hasKey_iff, hk]

theorem KeepsKeyOrder.placesOf_eq (h : KeepsKeyOrder records places) (k : String) :
    placesOf records k places = placesOf records k (List.range records.length) := by
  have hplaces : (placesOf records k places).Pairwise (· < ·) := by
    refine (h.inOrder.filter _).imp_of_mem fun {i j} hi hj hij => ?_
    have hi : keyAt records i = some k := by simpa using (List.mem_filter.1 hi).2
    have hj : keyAt records j = some k := by simpa using (List.mem_filter.1 hj).2
    simpa [hi, hj] using hij
  have hrange : (placesOf records k (List.range records.length)).Pairwise (· < ·) :=
    List.pairwise_lt_range.filter _
  exact List.Perm.eq_of_pairwise (fun _ _ _ _ hij hji => absurd hij (Nat.lt_asymm hji))
    hplaces hrange (h.perm.filter _)

/-- Each key has the same records in the same order. -/
theorem KeepsKeyOrder.filter_hasKey (h : KeepsKeyOrder records places) (k : String) :
    (rearrange records places).filter (hasKey k) = records.filter (hasKey k) := by
  rw [filter_rearrange, h.placesOf_eq, ← filter_rearrange, rearrange_range]

/-! ### Builds -/

/-- The merged entries are the same, up to order, where each key has the same entries. -/
theorem mergeAll_perm (h : ∀ k, (es.filter fun e => e.key == k) = es'.filter fun e => e.key == k) :
    (mergeAll es).Perm (mergeAll es') := by
  rw [List.perm_ext_iff_of_nodup (.of_map _ (nodup_keys_mergeAll es))
    (.of_map _ (nodup_keys_mergeAll es'))]
  intro e
  rw [mem_mergeAll, mem_mergeAll, summary, summary, h]

theorem divide_of_filter (h : ∀ k, records'.filter (hasKey k) = records.filter (hasKey k)) :
    divide p (mergeAll (validEntries records')) = divide p (mergeAll (validEntries records)) := by
  refine divide_of_perm (mergeAll_perm fun k => ?_) (fun e he => ?_) (nodup_keys_mergeAll _)
  · rw [filter_validEntries, filter_validEntries, h]
  · exact (mem_mergeAll_validEntries.1 he).sortText_key

/-- Valid records in another order, in which those of one key keep theirs, give the same build. -/
theorem build_of_rearranged (isStrict : Bool) (p : Partition)
    (hvalid : ∀ r ∈ records, r.valid?.isSome) (h : KeepsKeyOrder records places) :
    ∃ b, run isStrict p records = .ok b ∧ run isStrict p (rearrange records places) = .ok b := by
  have hvalid' : ∀ r ∈ rearrange records places, r.valid?.isSome :=
    fun r hr => hvalid r (h.rearrange_perm.mem_iff.1 hr)
  have hsame : lenient p (rearrange records places) = lenient p records := by
    rw [lenient_of_valid hvalid', lenient_of_valid hvalid, ofEntries, ofEntries,
      divide_of_filter h.filter_hasKey]
  exact ⟨_, run_eq_lenient fun _ => hvalid, hsame ▸ run_eq_lenient fun _ => hvalid'⟩

/-- Two records of one key, one on each side of a record of another key. -/
def scatteredRecords : List Record :=
  [.ofText "" "Foo" [⟨"a.html", "N"⟩], .ofText "" "Bar" [⟨"b.html", ""⟩],
    .ofText "foo" "FOO" [⟨"c.html", ""⟩], .ofText "" "~Foo" [⟨"d.html", ""⟩]]

theorem build_of_rearranged_scattered :
    (∀ r ∈ scatteredRecords, r.valid?.isSome) ∧ KeepsKeyOrder scatteredRecords [3, 0, 2, 1] ∧
    ∃ b, run true .alpha scatteredRecords = .ok b ∧
      run true .alpha (rearrange scatteredRecords [3, 0, 2, 1]) = .ok b := by
  have hvalid : ∀ r ∈ scatteredRecords, r.valid?.isSome := by decide +kernel
  have hplaces : KeepsKeyOrder scatteredRecords [3, 0, 2, 1] :=
    ⟨by decide +kernel, by decide +kernel⟩
  exact ⟨hvalid, hplaces, build_of_rearranged true .alpha hvalid hplaces⟩

end SymbolIndex.Build
