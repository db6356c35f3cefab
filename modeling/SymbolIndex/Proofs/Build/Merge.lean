import Mathlib.Data.List.Induction
import SymbolIndex.Proofs.Build.Divide
import SymbolIndex.Proofs.Distinct
import SymbolIndex.Proofs.Record

/-!
# Merging entries by key

The merged entries are the *summaries* of the keys: the name of the first entry with the key and
the occurrences of all of them, in order. `lenient_conserves` carries this from the entries to
the records and through the shards.
-/

namespace SymbolIndex.Build

/-- The first entry with a key, with the occurrences of all entries that have it. -/
def summary (es : List Entry) (k : String) : Option Entry :=
  match es.filter fun e => e.key == k with
  | [] => none
  | e :: rest => some ⟨k, e.displayName, (e :: rest).flatMap (·.occurrences)⟩

/-- The first entry with a key. -/
def find? (es : List Entry) (k : String) : Option Entry := es.find? fun e => e.key == k

/-- What a known entry of a key becomes by one more. -/
def extend (known : Option Entry) (e : Entry) : Entry :=
  match known with
  | none => e
  | some d => { d with occurrences := d.occurrences ++ e.occurrences }

theorem find?_merge_self (merged : List Entry) (e : Entry) :
    find? (merge merged e) e.key = some (extend (find? merged e.key) e) := by
  induction merged with
  | nil => simp [merge, find?, extend]
  | cons d rest ih =>
    rw [merge]
    split
    · rename_i hk
      simp [find?, hk, extend]
    · rename_i hk
      simpa [find?, hk] using ih

theorem find?_merge_of_ne (merged : List Entry) {e : Entry} {k : String} (hk : e.key ≠ k) :
    find? (merge merged e) k = find? merged k := by
  induction merged with
  | nil => simp [merge, find?, hk]
  | cons d rest ih =>
    rw [merge]
    split
    · rename_i hd
      simp [find?, hd, hk]
    · by_cases hdk : d.key = k
      · simp [find?, hdk]
      · simpa [find?, hdk] using ih

theorem summary_append (es : List Entry) (e : Entry) (k : String) :
    summary (es ++ [e]) k =
      if e.key = k then some (extend (summary es k) e) else summary es k := by
  unfold summary
  rw [List.filter_append]
  by_cases hk : e.key = k
  · subst hk
    cases es.filter fun d => d.key == e.key with
    | nil => simp [extend]
    | cons d rest => simp [extend]
  · simp [hk]

/-- Each key is merged to its summary. -/
theorem find?_mergeAll (es : List Entry) (k : String) : find? (mergeAll es) k = summary es k := by
  induction es using List.reverseRecOn with
  | nil => rfl
  | append_singleton es e ih =>
    rw [summary_append, ← ih, mergeAll, List.foldl_concat, ← mergeAll]
    split
    · rename_i hk
      subst hk
      exact find?_merge_self _ _
    · rename_i hk
      exact find?_merge_of_ne _ hk

theorem map_key_merge (merged : List Entry) (e : Entry) :
    (merge merged e).map (·.key) =
      if e.key ∈ merged.map (·.key) then merged.map (·.key)
      else merged.map (·.key) ++ [e.key] := by
  induction merged with
  | nil => simp [merge]
  | cons d rest ih =>
    rw [merge]
    by_cases hk : d.key = e.key
    · simp [hk]
    · have hk' : e.key ≠ d.key := fun h => hk h.symm
      simp only [if_neg hk, List.map_cons, ih, List.mem_cons, hk', false_or]
      split <;> rfl

theorem nodup_keys_mergeAll (es : List Entry) : ((mergeAll es).map (·.key)).Nodup := by
  induction es using List.reverseRecOn with
  | nil => exact .nil
  | append_singleton es e ih =>
    rw [mergeAll, List.foldl_concat, ← mergeAll, map_key_merge]
    split
    · exact ih
    · rename_i hk
      exact List.nodup_append.2 ⟨ih, List.nodup_singleton _, by
        rintro a ha b hb rfl
        exact hk (List.mem_singleton.1 hb ▸ ha)⟩

theorem mem_mergeAll {es : List Entry} {e : Entry} :
    e ∈ mergeAll es ↔ summary es e.key = some e := by
  rw [← find?_mergeAll]
  exact ⟨find?_of_nodup (nodup_keys_mergeAll es), List.mem_of_find?_eq_some⟩

theorem occurrences_merge_perm (merged : List Entry) (e : Entry) :
    ((merge merged e).flatMap (·.occurrences)).Perm
      (merged.flatMap (·.occurrences) ++ e.occurrences) := by
  induction merged with
  | nil => simp [merge]
  | cons d rest ih =>
    rw [merge]
    split
    · simp only [List.flatMap_cons, List.append_assoc]
      exact List.perm_append_comm.append_left _
    · simp only [List.flatMap_cons, List.append_assoc]
      exact ih.append_left _

theorem occurrences_mergeAll_perm (es : List Entry) :
    ((mergeAll es).flatMap (·.occurrences)).Perm (es.flatMap (·.occurrences)) := by
  induction es using List.reverseRecOn with
  | nil => exact .refl _
  | append_singleton es e ih =>
    rw [mergeAll, List.foldl_concat, ← mergeAll, List.flatMap_append]
    simpa using (occurrences_merge_perm _ e).trans (ih.append_right _)

/-! ### Records -/

/-- Whether a record is valid and has a key. -/
def hasKey (k : String) (r : Record) : Bool := r.valid?.any fun e => e.key == k

theorem hasKey_iff {k : String} {r : Record} : hasKey k r = true ↔ r.key? = some k := by
  cases hr : r.valid? <;> simp [hasKey, Record.key?, hr]

/-- The entry has the name of the first record with its key and the occurrences of all of them,
in order. -/
structure Merges (records : List Record) (e : Entry) : Prop where
  displayName : ((records.filter (hasKey e.key)).head?.map (·.displayName)) =
    some (.str e.displayName)
  occurrences : e.occurrences.map Record.Place.ofOccurrence =
    (records.filter (hasKey e.key)).flatMap (·.occurrences)

/-- The entries of the valid records. -/
def validEntries (records : List Record) : List Entry := records.filterMap (·.valid?)

theorem ofOccurrence_injective : Function.Injective Record.Place.ofOccurrence := by
  rintro ⟨u, l⟩ ⟨u', l'⟩ h
  simpa [Record.Place.ofOccurrence] using h

theorem Merges.eq {records : List Record} {e e' : Entry} (h : Merges records e)
    (h' : Merges records e') (hk : e.key = e'.key) : e = e' := by
  have hd := h.displayName
  have ho := h.occurrences
  rw [hk, h'.displayName] at hd
  rw [hk, ← h'.occurrences] at ho
  obtain ⟨k, d, os⟩ := e
  obtain ⟨k', d', os'⟩ := e'
  simp only [Option.some.injEq, Json.str.injEq] at hd
  rw [Entry.mk.injEq]
  exact ⟨hk, hd.symm, ofOccurrence_injective.list_map ho⟩

theorem filter_validEntries (records : List Record) (k : String) :
    (validEntries records).filter (fun e => e.key == k) =
      validEntries (records.filter (hasKey k)) := by
  rw [validEntries, validEntries, List.filter_filterMap, List.filterMap_filter]
  apply List.filterMap_congr
  intro r _
  cases hr : r.valid? with
  | none => simp [hasKey, hr]
  | some e => simp [hasKey, hr, Option.filter]

theorem occurrences_validEntries (records : List Record)
    (h : ∀ r ∈ records, r.valid?.isSome) :
    ((validEntries records).flatMap (·.occurrences)).map Record.Place.ofOccurrence =
      records.flatMap (·.occurrences) := by
  induction records with
  | nil => rfl
  | cons r rest ih =>
    obtain ⟨e, he⟩ := Option.isSome_iff_exists.1 (h r (by simp))
    have := ih fun r hr => h r (by simp [hr])
    rw [validEntries] at this ⊢
    rw [List.filterMap_cons_some he, List.flatMap_cons, List.flatMap_cons, List.map_append, this,
      (Record.gives_of_valid? he).occurrences]

theorem isSome_of_hasKey {k : String} {r : Record} (h : hasKey k r = true) : r.valid?.isSome := by
  cases hr : r.valid? with
  | none => simp [hasKey, hr] at h
  | some e => rfl

theorem validEntries_filter (records : List Record) :
    validEntries (records.filter fun r => r.valid?.isSome) = validEntries records := by
  rw [validEntries, validEntries, List.filterMap_filter]
  apply List.filterMap_congr
  intro r _
  cases r.valid? <;> simp

theorem merges_of_summary {records : List Record} {k : String} {e : Entry}
    (h : summary (validEntries records) k = some e) : e.key = k ∧ Merges records e := by
  have hocc := occurrences_validEntries (records.filter (hasKey k)) fun r hr =>
    isSome_of_hasKey (List.mem_filter.1 hr).2
  unfold summary at h
  rw [filter_validEntries] at h
  cases hs : records.filter (hasKey k) with
  | nil => rw [hs] at h; cases h
  | cons r rest =>
    obtain ⟨d, hd⟩ := Option.isSome_iff_exists.1
      (isSome_of_hasKey (List.mem_filter.1 (hs ▸ List.mem_cons_self : r ∈ _)).2)
    have hes : validEntries (r :: rest) = d :: validEntries rest := by
      rw [validEntries, List.filterMap_cons_some hd, validEntries]
    rw [hs, hes] at h hocc
    cases h
    refine ⟨rfl, ?_, ?_⟩
    · simp only [hs, List.head?_cons, Option.map_some]
      rw [(Record.gives_of_valid? hd).displayName]
    · rw [hs, ← hocc]

theorem summary_isSome {records : List Record} {k : String} :
    (summary (validEntries records) k).isSome ↔ ∃ r ∈ records, hasKey k r = true := by
  rw [summary, filter_validEntries]
  constructor
  · intro h
    cases hs : records.filter (hasKey k) with
    | nil => rw [hs] at h; cases h
    | cons r rest => exact ⟨r, List.mem_filter.1 (hs ▸ List.mem_cons_self : r ∈ _)⟩
  · rintro ⟨r, hr, hk⟩
    obtain ⟨e, he⟩ := Option.isSome_iff_exists.1 (isSome_of_hasKey hk)
    have : e ∈ validEntries (records.filter (hasKey k)) :=
      List.mem_filterMap.2 ⟨r, List.mem_filter.2 ⟨hr, hk⟩, he⟩
    split
    · rename_i hnil; simp [hnil] at this
    · rfl

/-- The merged entries are the ones that merge the records. -/
theorem mem_mergeAll_validEntries {records : List Record} {e : Entry} :
    e ∈ mergeAll (validEntries records) ↔ Merges records e := by
  rw [mem_mergeAll]
  constructor
  · intro h
    exact (merges_of_summary h).2
  · intro h
    have hsome : (summary (validEntries records) e.key).isSome := by
      rw [summary_isSome]
      have hd := h.displayName
      cases hs : records.filter (hasKey e.key) with
      | nil => rw [hs] at hd; cases hd
      | cons r rest => exact ⟨r, List.mem_filter.1 (hs ▸ List.mem_cons_self : r ∈ _)⟩
    obtain ⟨d, hd⟩ := Option.isSome_iff_exists.1 hsome
    obtain ⟨hk, hm⟩ := merges_of_summary hd
    rw [hd, hm.eq h hk]

/-! ### Builds -/

/-- The entries of all shards. -/
def entries (b : Build) : List Entry := b.shards.flatMap (·.entries)

theorem validateFrom_eq (n : Nat) (records : List Record) :
    validateFrom n records =
      (records.zipIdx n).map fun r => r.1.validate (some ((r.2 : Nat) : Int)) := by
  induction records generalizing n with
  | nil => rfl
  | cons r rest ih => rw [validateFrom, ih, List.zipIdx_cons, List.map_cons]

theorem lenient_eq (p : Partition) (records : List Record) :
    lenient p records = ofEntries p (validEntries records)
      (records.zipIdx.filterMap fun r => r.1.rejection? r.2) := by
  have hvalid : (validateFrom 0 records).filterMap (·.toOption) = validEntries records := by
    rw [validateFrom_eq, List.filterMap_map, validEntries]
    conv_rhs => rw [← List.zipIdx_map_fst 0 records, List.filterMap_map]
    exact List.filterMap_congr fun r _ => Record.toOption_validate _ _
  rw [lenient, ← hvalid, validateFrom_eq, List.filterMap_map, List.filterMap_map, List.filterMap_map]
  congr 1
  apply List.filterMap_congr
  intro r _
  rw [Function.comp_apply, Function.comp_apply]
  cases r.1.validate _ <;> rfl

theorem shards_lenient (p : Partition) (records : List Record) :
    (lenient p records).shards = divide p (mergeAll (validEntries records)) := by
  rw [lenient_eq, ofEntries]

theorem entries_lenient_perm (p : Partition) (records : List Record) :
    (lenient p records).entries.Perm (mergeAll (validEntries records)) := by
  rw [entries, shards_lenient]
  exact flatMap_divide_perm _ _

theorem mem_entries_lenient {p : Partition} {records : List Record} {e : Entry} :
    e ∈ (lenient p records).entries ↔ Merges records e := by
  rw [(entries_lenient_perm p records).mem_iff, mem_mergeAll_validEntries]

theorem nodup_keys_lenient (p : Partition) (records : List Record) :
    ((lenient p records).entries.map (·.key)).Nodup :=
  ((entries_lenient_perm p records).map _).nodup_iff.2 (nodup_keys_mergeAll _)

theorem exists_entry_iff {p : Partition} {records : List Record} {k : String} :
    (∃ e ∈ (lenient p records).entries, e.key = k) ↔ ∃ r ∈ records, hasKey k r = true := by
  rw [← summary_isSome, ← find?_mergeAll, find?, List.find?_isSome]
  simp only [(entries_lenient_perm p records).mem_iff, beq_iff_eq]

theorem occurrences_lenient_perm (p : Partition) (records : List Record) :
    (((lenient p records).entries.flatMap (·.occurrences)).map Record.Place.ofOccurrence).Perm
      ((records.filter fun r => r.valid?.isSome).flatMap (·.occurrences)) := by
  have hp := ((entries_lenient_perm p records).flatMap_right (·.occurrences)).trans
    (occurrences_mergeAll_perm (validEntries records))
  rw [← occurrences_validEntries _ fun r hr => (List.mem_filter.1 hr).2, validEntries_filter]
  exact hp.map _

/-- The entries of a lenient build are the merged records, each key once. The rejections are those
of the invalid records in input order, each with its place, and no occurrence is lost, made up or
taken from an invalid record. -/
theorem lenient_conserves (p : Partition) (records : List Record) :
    let b := lenient p records
    (∀ k, (∃ e ∈ b.entries, e.key = k) ↔ ∃ r ∈ records, hasKey k r = true) ∧
    (b.entries.map (·.key)).Nodup ∧
    (∀ e, e ∈ b.entries ↔ Merges records e) ∧
    b.rejected = (records.zipIdx.filterMap fun r => r.1.rejection? r.2) ∧
    (∀ (r : Record) (i : Nat) (x : Record.Rejection), r.rejection? i = some x →
      x.index = some (i : Int)) ∧
    ((b.entries.flatMap (·.occurrences)).map Record.Place.ofOccurrence).Perm
      ((records.filter fun r => r.valid?.isSome).flatMap (·.occurrences)) := by
  refine ⟨fun k => exists_entry_iff, nodup_keys_lenient p records,
    fun e => mem_entries_lenient, ?_, ?_, occurrences_lenient_perm p records⟩
  · rw [lenient_eq, ofEntries]
  · intro r i x h
    unfold Record.rejection? at h
    split at h
    · cases h
    · rename_i hx
      cases h
      exact Record.index_of_validate hx

/-- Two records of one key with an invalid one between them, a record without a name, and a record
of another key. -/
def mixedRecords : List Record :=
  [.ofText "" "Foo" [⟨"a.html", "N"⟩], .ofText "foo" "FOO" [],
    .ofText "foo" "f o o" [⟨"a.html", "N"⟩, ⟨"b.html", ""⟩], .ofText "foo" " " [⟨"c.html", ""⟩],
    .ofText "" "~Foo" [⟨"d.html", ""⟩]]

theorem lenient_conserves_mixed :
    mixedRecords.map (hasKey "foo") = [true, false, true, false, false] ∧
      (∃ e ∈ (lenient .alpha mixedRecords).entries, e.key = "foo" ∧ e.displayName = "Foo" ∧
        e.occurrences = [⟨"a.html", "N"⟩, ⟨"a.html", "N"⟩, ⟨"b.html", ""⟩]) := by
  have hkeys : mixedRecords.map (hasKey "foo") = [true, false, true, false, false] := by
    decide +kernel
  refine ⟨hkeys, ?_⟩
  obtain ⟨hiff, _, hmem, _⟩ := lenient_conserves .alpha mixedRecords
  obtain ⟨e, he, hk⟩ := (hiff "foo").2 ⟨.ofText "" "Foo" [⟨"a.html", "N"⟩], by simp [mixedRecords],
    by simp_all [mixedRecords]⟩
  have hm := (hmem e).1 he
  have hd := hm.displayName
  have ho := hm.occurrences
  simp only [mixedRecords, List.map_cons, List.map_nil, List.cons.injEq, and_true] at hkeys
  obtain ⟨h1, h2, h3, h4, h5⟩ := hkeys
  simp only [hk, mixedRecords, List.filter_cons, h1, h2, h3, h4, h5] at hd ho
  refine ⟨e, he, hk, ?_, ofOccurrence_injective.list_map ?_⟩
  · simpa [Record.ofText] using hd.symm
  · simpa [Record.ofText, Record.Place.ofOccurrence] using ho

end SymbolIndex.Build
