import SymbolIndex.Proofs.Build.Strictness
import SymbolIndex.Proofs.SearchData.RoundTrip

/-!
# Building a build again

The entries of a build are those of valid records (`fit_of_mem_mergeAll`), so they can be
built again from the records that repeat them. The search data files of its shards hold just these
records, and neither the order of the shards nor that of the records matters
(`searchData_round_trip`).
-/

namespace SymbolIndex.Build

open Record

variable {p : Partition} {records : List Record} {es : List Entry} {b : Build}

/-! ### Entries are fit -/

theorem fit_of_mem_merge {merged : List Entry} {e : Entry} (hmerged : ∀ d ∈ merged, Fit d)
    (he : Fit e) : ∀ d ∈ merge merged e, Fit d := by
  induction merged with
  | nil =>
    intro d hd
    rw [merge, List.mem_singleton] at hd
    exact hd ▸ he
  | cons c rest ih =>
    have hc := hmerged c List.mem_cons_self
    have hrest := fun d hd => hmerged d (List.mem_cons_of_mem _ hd)
    rw [merge]
    split
    · rw [List.forall_mem_cons]
      refine ⟨⟨hc.isVisible, hc.normalize_key, hc.key_ne, by simp [hc.occurrences_ne], ?_⟩, hrest⟩
      intro o ho
      exact (List.mem_append.1 ho).elim (hc.anchors_ne o) (he.anchors_ne o)
    · exact List.forall_mem_cons.2 ⟨hc, ih hrest⟩

theorem fit_of_mem_mergeAll (h : ∀ e ∈ es, Fit e) : ∀ e ∈ mergeAll es, Fit e := by
  induction es using List.reverseRecOn with
  | nil => exact fun e he => absurd he List.not_mem_nil
  | append_singleton es e ih =>
    rw [List.forall_mem_append, List.forall_mem_singleton] at h
    rw [mergeAll, List.foldl_concat, ← mergeAll]
    exact fit_of_mem_merge (ih h.1) h.2

theorem fit_of_mem_entries {e : Entry} (he : e ∈ (lenient p records).entries) : Fit e := by
  refine fit_of_mem_mergeAll ?_ e ((entries_lenient_perm p records).mem_iff.1 he)
  intro d hd
  obtain ⟨r, _, hr⟩ := List.mem_filterMap.1 hd
  exact fit_of_valid? hr

/-! ### Entries built again -/

theorem merge_of_not_mem {merged : List Entry} {e : Entry} (h : e.key ∉ merged.map (·.key)) :
    merge merged e = merged ++ [e] := by
  induction merged with
  | nil => rfl
  | cons d rest ih =>
    rw [List.map_cons, List.mem_cons, not_or] at h
    rw [merge, if_neg (Ne.symm h.1), ih h.2, List.cons_append]

/-- Entries whose keys differ are not merged. -/
theorem mergeAll_of_nodup (h : (es.map (·.key)).Nodup) : mergeAll es = es := by
  induction es using List.reverseRecOn with
  | nil => rfl
  | append_singleton es e ih =>
    rw [List.map_append, List.map_singleton, List.nodup_append] at h
    have hnew : e.key ∉ es.map (·.key) := fun he => h.2.2 e.key he e.key (by simp) rfl
    rw [mergeAll, List.foldl_concat, ← mergeAll, ih h.1, merge_of_not_mem hnew]

theorem valid?_recordOf {e : Entry} (h : Fit e) : (SearchData.recordOf e).valid? = some e := by
  have hlower : e.key.toLower = e.key := by
    rw [← h.normalize_key, Key.toLower_normalize]
  rw [SearchData.recordOf, hlower]
  exact h.valid?

theorem validEntries_map_recordOf (h : ∀ e ∈ es, Fit e) :
    validEntries (es.map SearchData.recordOf) = es := by
  rw [validEntries, List.filterMap_map]
  induction es with
  | nil => rfl
  | cons e es ih =>
    rw [List.forall_mem_cons] at h
    rw [List.filterMap_cons_some (by exact valid?_recordOf h.1), ih h.2]

/-- The entries of a build in any order, as records, give the same shards and manifest. -/
theorem exists_run_of_perm (isStrict : Bool) (h : es.Perm (lenient p records).entries) :
    ∃ c, run isStrict p (es.map SearchData.recordOf) = .ok c ∧
      c.shards = (lenient p records).shards ∧ c.manifest = (lenient p records).manifest := by
  have hfit : ∀ e ∈ es, Fit e := fun e he => fit_of_mem_entries (h.mem_iff.1 he)
  have hkeys : (es.map (·.key)).Nodup := (h.map _).nodup_iff.2 (nodup_keys_lenient p records)
  have hvalid : ∀ r ∈ es.map SearchData.recordOf, r.valid?.isSome := by
    intro r hr
    obtain ⟨e, he, rfl⟩ := List.mem_map.1 hr
    rw [valid?_recordOf (hfit e he)]
    rfl
  have hdivide : divide p (mergeAll (validEntries (es.map SearchData.recordOf))) =
      divide p (mergeAll (validEntries records)) := by
    rw [validEntries_map_recordOf hfit, mergeAll_of_nodup hkeys]
    refine divide_of_perm (h.trans (entries_lenient_perm p records)) (fun e he => ?_) hkeys
    rw [← (hfit e he).normalize_key, Key.sortText_normalize]
  refine ⟨_, run_eq_lenient fun _ => hvalid, ?_, ?_⟩
  · rw [shards_lenient, shards_lenient, hdivide]
  · rw [lenient_eq, lenient_eq p records, ofEntries, ofEntries, hdivide]

/-! ### The round trip -/

theorem mapM_read_render {shards : List Shard}
    (h : ∀ s ∈ shards, ∀ e ∈ s.entries, e.occurrences ≠ []) :
    shards.mapM (fun s => SearchData.read (SearchData.render s)) =
      .ok (shards.map fun s => s.entries.map SearchData.recordOf) := by
  rw [mapM_eq_ok, List.forall₂_map_right_iff, List.forall₂_same]
  exact fun s hs => SearchData.read_render (h s hs)

/-- A search data file gives back the records of its entries, in order, with the same names and
occurrences, whatever characters they hold; the raw names are the keys in lower case. The records
of all shards of a build, in any order of the shards, build the same shards and manifest. -/
theorem searchData_round_trip :
    (∀ s : Shard, (∀ e ∈ s.entries, e.occurrences ≠ []) →
      SearchData.read (SearchData.render s) =
        .ok (s.entries.map fun e => .ofText e.key.toLower e.displayName e.occurrences)) ∧
    ∀ (isStrict : Bool) (p : Partition) (records : List Record) (b : Build),
      run isStrict p records = .ok b → ∀ shards : List Shard, shards.Perm b.shards →
        ∃ parts c, shards.mapM (fun s => SearchData.read (SearchData.render s)) = .ok parts ∧
          strict p parts.flatten = .ok c ∧ c.shards = b.shards ∧ c.manifest = b.manifest := by
  refine ⟨fun s => SearchData.read_render, fun isStrict p records b hrun shards hp => ?_⟩
  obtain rfl := eq_lenient_of_run hrun
  have hread := mapM_read_render fun s hs e he =>
    ((wellFormed_of_mem (hp.mem_iff.1 hs)).2.2 e he).2
  obtain ⟨c, hc, hshards, hmanifest⟩ := exists_run_of_perm true (hp.flatMap_right (·.entries))
  refine ⟨_, c, hread, ?_, hshards, hmanifest⟩
  rw [← List.flatMap_def, ← List.map_flatMap]
  exact hc

/-- An entry with an upper-case key and text that is special in one of the layers of a file. -/
def awkwardEntry : Entry :=
  ⟨"A_'Ä", "x'y\"z\\[0],\n&amp;lt; &#39; var searchData=",
    [⟨"it's&amp;.html#\\'", "<&lt;>"⟩, ⟨"it's&amp;.html#\\'", "<&lt;>"⟩]⟩

theorem searchData_round_trip_awkward :
    SearchData.read (SearchData.render ⟨"a", [awkwardEntry]⟩) =
        .ok [.ofText "a_'Ä" awkwardEntry.displayName awkwardEntry.occurrences] ∧
      ∃ b, run true .alpha [SearchData.recordOf awkwardEntry, .ofText "" "~B" [⟨"b.html", ""⟩]] =
          .ok b ∧ (∃ e ∈ b.entries, e.key = "a_a") ∧ (∃ e ∈ b.entries, e.key = "~b") ∧
        ∃ parts c, b.shards.reverse.mapM (fun s => SearchData.read (SearchData.render s)) =
          .ok parts ∧ strict .alpha parts.flatten = .ok c ∧ c.shards = b.shards ∧
            c.manifest = b.manifest := by
  have hrun : run true .alpha [SearchData.recordOf awkwardEntry, .ofText "" "~B" [⟨"b.html", ""⟩]] =
      .ok (lenient .alpha
        [SearchData.recordOf awkwardEntry, .ofText "" "~B" [⟨"b.html", ""⟩]]) :=
    run_eq_lenient fun _ => by decide +kernel
  have hread := searchData_round_trip.1 ⟨"a", [awkwardEntry]⟩ (by decide)
  have hlower : awkwardEntry.key.toLower = "a_'Ä" := by decide +kernel
  rw [List.map_singleton, hlower] at hread
  exact ⟨hread, _, hrun, exists_entry_iff.2 (by decide +kernel),
    exists_entry_iff.2 (by decide +kernel),
    searchData_round_trip.2 true .alpha _ _ hrun _ (List.reverse_perm _)⟩

end SymbolIndex.Build
