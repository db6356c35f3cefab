import Mathlib.Data.Finset.Card
import Mathlib.Data.List.Nodup
import SymbolIndex.Proofs.Build.Merge
import SymbolIndex.Proofs.Key.Append
import SymbolIndex.Proofs.Partition.Order

/-!
# Layout of a build

The shards of a build are well formed, their ids differ and belong to the partition, and an entry
stands in the shard of its key and in no other, behind the entries with smaller keys
(`pairwise_sortText`). A strict build that succeeds is the lenient one, so what holds of the shards
and the manifest of lenient builds holds of every build (`build_laid_out`).
-/

namespace SymbolIndex.Build

variable {p : Partition} {records : List Record} {s : Shard} {e : Entry}

/-! ### Merged entries -/

/-- A merged entry has the key of some valid record. -/
theorem Merges.exists_gives (h : Merges records e) :
    ∃ r ∈ records.filter (hasKey e.key), ∃ d, r.Gives d ∧ d.key = e.key := by
  have hd := h.displayName
  cases hs : records.filter (hasKey e.key) with
  | nil => rw [hs] at hd; cases hd
  | cons r rest =>
    have hr : r ∈ records.filter (hasKey e.key) := hs ▸ List.mem_cons_self
    have hk := (List.mem_filter.1 hr).2
    obtain ⟨d, hd⟩ := Option.isSome_iff_exists.1 (isSome_of_hasKey hk)
    rw [hasKey, hd, Option.any_some, beq_iff_eq] at hk
    exact ⟨r, List.mem_cons_self, d, Record.gives_of_valid? hd, hk⟩

theorem Merges.key_ne (h : Merges records e) : e.key ≠ "" := by
  obtain ⟨r, _, d, hd, hk⟩ := h.exists_gives
  exact hk ▸ hd.key_ne

theorem Merges.occurrences_ne (h : Merges records e) : e.occurrences ≠ [] := by
  obtain ⟨r, hr, d, hd, _⟩ := h.exists_gives
  intro hnil
  have ho := h.occurrences
  rw [hnil, List.map_nil] at ho
  have hempty := List.flatMap_eq_nil_iff.1 ho.symm r hr
  rw [hd.occurrences, List.map_eq_nil_iff] at hempty
  exact hd.occurrences_ne hempty

/-! ### Shards -/

theorem shardIds_ofEntries (p : Partition) (es : List Entry) (rejected : List Record.Rejection) :
    (ofEntries p es rejected).manifest.shardIds =
      (ofEntries p es rejected).shards.map (·.id) := by
  rw [ofEntries, Manifest.shardIds, List.map_map]
  rfl

theorem shardIds_lenient (p : Partition) (records : List Record) :
    (lenient p records).manifest.shardIds = (lenient p records).shards.map (·.id) :=
  shardIds_ofEntries p _ _

theorem partition_lenient (p : Partition) (records : List Record) :
    (lenient p records).manifest.partition = p := rfl

theorem nodup_ids_lenient (p : Partition) (records : List Record) :
    ((lenient p records).shards.map (·.id)).Nodup := by
  rw [shards_lenient, map_id_divide]
  exact nodup_orderedIds _ _

/-- A shard holds the merged entries whose keys belong to it. -/
theorem mem_entries_of_shard (hs : s ∈ (lenient p records).shards) :
    e ∈ s.entries ↔ Merges records e ∧ p.idOf e.key.toList = s.id := by
  rw [shards_lenient] at hs
  rw [(mem_divide.1 hs).2, mem_entries_shardOf, mem_mergeAll_validEntries]
  rfl

/-- The shard of a merged entry. -/
theorem exists_shard (h : Merges records e) :
    ∃ s ∈ (lenient p records).shards, s.id = p.idOf e.key.toList := by
  have hid : p.idOf e.key.toList ∈ (lenient p records).shards.map (·.id) := by
    rw [shards_lenient, map_id_divide, mem_orderedIds]
    exact ⟨e, mem_mergeAll_validEntries.2 h, rfl⟩
  exact List.mem_map.1 hid

theorem nodup_keys_shards (p : Partition) (records : List Record) :
    (∀ s ∈ (lenient p records).shards, s.keys.Nodup) ∧
      (lenient p records).shards.Pairwise fun s t => s.keys.Disjoint t.keys := by
  have h := nodup_keys_lenient p records
  rw [entries, List.map_flatMap, List.nodup_flatMap] at h
  exact h

theorem id_mem_allIds (hs : s ∈ (lenient p records).shards) : s.id ∈ p.allIds := by
  have hid := List.mem_map_of_mem (f := fun s : Shard => s.id) hs
  rw [shards_lenient, map_id_divide, mem_orderedIds] at hid
  obtain ⟨e, _, hid⟩ := hid
  exact hid ▸ Partition.idOf_mem_allIds p _

theorem wellFormed_of_mem (hs : s ∈ (lenient p records).shards) : s.WellFormed := by
  refine ⟨Partition.ne_empty_of_mem_allIds (id_mem_allIds hs), (nodup_keys_shards p records).1 s hs,
    fun e he => ?_⟩
  have hm := ((mem_entries_of_shard hs).1 he).1
  exact ⟨hm.key_ne, hm.occurrences_ne⟩

/-! ### The order of a shard -/

theorem Merges.sortText_key (h : Merges records e) : Key.sortText e.key = e.key := by
  obtain ⟨r, _, d, hd, hk⟩ := h.exists_gives
  rw [← hk, hd.key, Key.sortText_normalize]

/-- The sort texts of the keys of a shard increase, each above the one before it. -/
theorem pairwise_sortText (hs : s ∈ (lenient p records).shards) :
    (s.keys.map Key.sortText).Pairwise (· < ·) := by
  have hmem : ∀ e ∈ s.entries, Merges records e := fun e he => ((mem_entries_of_shard hs).1 he).1
  have hsorted : s.entries.Pairwise fun a b => keyLe a b := by
    rw [shards_lenient] at hs
    rw [(mem_divide.1 hs).2]
    exact pairwise_keyLe _
  have hne : s.entries.Pairwise fun a b => a.key ≠ b.key :=
    List.pairwise_map.1 ((nodup_keys_shards p records).1 s hs)
  rw [Shard.keys, List.map_map, List.pairwise_map]
  refine (hsorted.and hne).imp_of_mem ?_
  intro a b ha hb ⟨hle, hkey⟩
  rw [keyLe, decide_eq_true_eq] at hle
  rw [Function.comp_apply, Function.comp_apply, (hmem a ha).sortText_key,
    (hmem b hb).sortText_key] at *
  exact String.not_le.1 fun hge => hkey (String.le_antisymm hle hge)

/-! ### Strict builds -/

theorem mapM_validateFrom (n : Nat) (h : ∀ r ∈ records, r.valid?.isSome) :
    (validateFrom n records).mapM id = .ok (validEntries records) := by
  induction records generalizing n with
  | nil => rfl
  | cons r rest ih =>
    obtain ⟨d, hd⟩ := Option.isSome_iff_exists.1 (h r List.mem_cons_self)
    have hv := (Record.validate_eq_ok (some (n : Int))).2 hd
    have hrest := ih (n + 1) fun r hr => h r (List.mem_cons_of_mem _ hr)
    rw [validateFrom, List.mapM_cons, hv, hrest, validEntries, validEntries,
      List.filterMap_cons_some hd]
    rfl

theorem lenient_of_valid (h : ∀ r ∈ records, r.valid?.isSome) :
    lenient p records = ofEntries p (validEntries records) [] := by
  have hnone : (records.zipIdx.filterMap fun r => r.1.rejection? r.2) = [] := by
    rw [List.filterMap_eq_nil_iff]
    rintro ⟨r, i⟩ hr
    obtain ⟨d, hd⟩ := Option.isSome_iff_exists.1 (h r (List.fst_mem_of_mem_zipIdx hr))
    have hv := (Record.validate_eq_ok (some (i : Int))).2 hd
    rw [Record.rejection?, hv]
  rw [lenient_eq, hnone]

/-- Without malformed records, the strict build is the lenient one. -/
theorem strict_eq_lenient (h : ∀ r ∈ records, r.valid?.isSome) :
    strict p records = .ok (lenient p records) := by
  rw [strict, mapM_validateFrom 0 h, lenient_of_valid h]
  rfl

theorem run_eq_lenient {isStrict : Bool} (h : isStrict = true → ∀ r ∈ records, r.valid?.isSome) :
    run isStrict p records = .ok (lenient p records) := by
  unfold run
  split
  · rename_i hstrict
    exact strict_eq_lenient (h hstrict)
  · rfl

theorem exists_mem_validateFrom {r : Record} (h : r ∈ records) (n : Nat) :
    ∃ i : Int, r.validate (some i) ∈ validateFrom n records := by
  induction records generalizing n with
  | nil => cases h
  | cons r' rest ih =>
    rcases List.mem_cons.1 h with rfl | h
    · exact ⟨n, List.mem_cons_self⟩
    · obtain ⟨i, hi⟩ := ih h (n + 1)
      exact ⟨i, List.mem_cons_of_mem _ hi⟩

/-- A build that succeeds is the lenient one. -/
theorem eq_lenient_of_run {isStrict : Bool} {b : Build} (h : run isStrict p records = .ok b) :
    b = lenient p records := by
  have hvalid : isStrict = true → ∀ r ∈ records, r.valid?.isSome := by
    rintro rfl r hr
    obtain ⟨es, hes, _⟩ := bind_eq_ok.1 h
    obtain ⟨i, hi⟩ := exists_mem_validateFrom hr 0
    obtain ⟨e, _, he⟩ := exists_of_forall₂_mem (mapM_eq_ok.1 hes).flip hi
    exact Option.isSome_iff_exists.2 ⟨e, (Record.validate_eq_ok (some i)).1 he⟩
  rw [run_eq_lenient hvalid] at h
  exact (Except.ok.inj h).symm

/-! ### Builds of any records -/

/-- A strict or lenient build of some records for some partition. -/
def Built (b : Build) : Prop := ∃ isStrict p records, run isStrict p records = .ok b

variable {b : Build}

theorem built_lenient (p : Partition) (records : List Record) : Built (lenient p records) :=
  ⟨false, p, records, rfl⟩

theorem Built.exists_lenient (h : Built b) : ∃ p records, b = lenient p records := by
  obtain ⟨_, p, records, h⟩ := h
  exact ⟨p, records, eq_lenient_of_run h⟩

theorem Built.shardIds (h : Built b) : b.manifest.shardIds = b.shards.map (·.id) := by
  obtain ⟨p, records, rfl⟩ := h.exists_lenient
  exact shardIds_lenient p records

theorem Built.mem_shardIds (h : Built b) {id : String} :
    id ∈ b.manifest.shardIds ↔ ∃ s ∈ b.shards, s.id = id := by
  rw [h.shardIds, List.mem_map]

theorem Built.nodup_ids (h : Built b) : (b.shards.map (·.id)).Nodup := by
  obtain ⟨p, records, rfl⟩ := h.exists_lenient
  exact nodup_ids_lenient p records

theorem Built.exists_id_mem (h : Built b) (hs : s ∈ b.shards) : ∃ p : Partition, s.id ∈ p.allIds := by
  obtain ⟨p, records, rfl⟩ := h.exists_lenient
  exact ⟨p, id_mem_allIds hs⟩

theorem Built.wellFormed (h : Built b) (hs : s ∈ b.shards) : s.WellFormed := by
  obtain ⟨p, records, rfl⟩ := h.exists_lenient
  exact wellFormed_of_mem hs

/-! ### The layout -/

/-- How the shards and the manifest of a build of records lie. -/
structure LaidOut (p : Partition) (records : List Record) (b : Build) : Prop where
  entries_ne : ∀ s ∈ b.shards, s.entries ≠ []
  ids_known : ∀ s ∈ b.shards, s.id ∈ p.allIds
  ids_differ : (b.shards.map (·.id)).Nodup
  ids_in_order : b.shards.Pairwise fun s t => p.orderOf s.id < p.orderOf t.id
  keys_normal : ∀ s ∈ b.shards, ∀ e ∈ s.entries, e.key ≠ "" ∧ e.key.toList ⊆ Key.alphabet
  keys_placed : ∀ s ∈ b.shards, ∀ e ∈ s.entries, p.shardOf e.key = .ok s.id
  keys_in_order : ∀ s ∈ b.shards, s.keys.Pairwise (· < ·)
  partition : b.manifest.partition = p
  options : ∀ scheme given, Partition.ofScheme scheme given = .ok p →
    b.manifest.partition.scheme = scheme ∧
      b.manifest.partition.shardCount?.map Int.ofNat = Partition.countInForce scheme given
  rows : b.manifest.rows = b.shards.map fun s => ⟨s.id, s.entries.length⟩
  entryCount : b.entryCount = (records.filterMap (·.key?)).toFinset.card

theorem entries_ne_of_mem (hs : s ∈ (lenient p records).shards) : s.entries ≠ [] := by
  have hshard := hs
  rw [shards_lenient, mem_divide] at hshard
  obtain ⟨⟨e, he, hid⟩, -⟩ := hshard
  have hmem : e ∈ s.entries := (mem_entries_of_shard hs).2 ⟨mem_mergeAll_validEntries.1 he, hid⟩
  exact List.ne_nil_of_mem hmem

theorem pairwise_orderOf_shards (p : Partition) (records : List Record) :
    (lenient p records).shards.Pairwise fun s t => p.orderOf s.id < p.orderOf t.id := by
  have h := pairwise_orderOf_orderedIds p (mergeAll (validEntries records))
  rwa [← map_id_divide, ← shards_lenient, List.pairwise_map] at h

theorem Merges.key_subset (h : Merges records e) : e.key.toList ⊆ Key.alphabet := by
  obtain ⟨r, _, d, hd, hk⟩ := h.exists_gives
  rw [← hk, hd.key]
  exact Key.normalize_eq_self_iff.1 (Key.normalize_normalize _)

/-- Keys are their own sort texts, so they increase as their sort texts do. -/
theorem pairwise_keys (hs : s ∈ (lenient p records).shards) : s.keys.Pairwise (· < ·) := by
  have hsort : s.keys.map Key.sortText = s.keys := by
    refine (List.map_congr_left fun k hk => ?_).trans s.keys.map_id
    obtain ⟨e, he, rfl⟩ := List.mem_map.1 hk
    exact ((mem_entries_of_shard hs).1 he).1.sortText_key
  have h := pairwise_sortText hs
  rwa [hsort] at h

/-- An entry for each key of a valid record. -/
theorem entryCount_lenient (p : Partition) (records : List Record) :
    (lenient p records).entryCount = (records.filterMap (·.key?)).toFinset.card := by
  have hkeys : (records.filterMap (·.key?)).toFinset =
      ((lenient p records).entries.map (·.key)).toFinset := by
    ext k
    simp only [List.mem_toFinset, List.mem_filterMap, List.mem_map, exists_entry_iff, hasKey_iff]
  rw [hkeys, List.toFinset_card_of_nodup (nodup_keys_lenient p records), List.length_map]
  rfl

theorem laidOut_lenient (p : Partition) (records : List Record) :
    LaidOut p records (lenient p records) where
  entries_ne _ hs := entries_ne_of_mem hs
  ids_known _ hs := id_mem_allIds hs
  ids_differ := nodup_ids_lenient p records
  ids_in_order := pairwise_orderOf_shards p records
  keys_normal _ hs _ he :=
    have hm := ((mem_entries_of_shard hs).1 he).1
    ⟨hm.key_ne, hm.key_subset⟩
  keys_placed _ hs _ he := by
    obtain ⟨hm, hid⟩ := (mem_entries_of_shard hs).1 he
    rw [Partition.shardOf_of_ne_empty p hm.key_ne, hid]
  keys_in_order _ hs := pairwise_keys hs
  partition := partition_lenient p records
  options _ _ h := Partition.of_ofScheme h
  rows := rfl
  entryCount := entryCount_lenient p records

/-- A lenient build always succeeds. Every build that succeeds has shards with entries, in canonical
order, each with increasing keys that belong to it; its manifest states the partition and lists
these shards with their sizes; and it has an entry for each key of a valid record. -/
theorem build_laid_out (p : Partition) (records : List Record) :
    (∃ b, run false p records = .ok b) ∧
    ∀ isStrict b, run isStrict p records = .ok b → LaidOut p records b := by
  refine ⟨⟨_, rfl⟩, fun isStrict b h => ?_⟩
  obtain rfl := eq_lenient_of_run h
  exact laidOut_lenient p records

theorem build_laid_out_mixed :
    (∃ b, run false (.hashed 3 (by decide)) mixedRecords = .ok b ∧
      LaidOut (.hashed 3 (by decide)) mixedRecords b ∧ b.entryCount = 2) ∧
    ∃ b, run true .alpha [.ofText "" "Foo" [⟨"a.html", "N"⟩]] = .ok b ∧
      LaidOut .alpha [.ofText "" "Foo" [⟨"a.html", "N"⟩]] b := by
  obtain ⟨⟨b, hb⟩, hlaid⟩ := build_laid_out (.hashed 3 (by decide)) mixedRecords
  have hstrict : run true .alpha [.ofText "" "Foo" [⟨"a.html", "N"⟩]] =
      .ok (lenient .alpha [.ofText "" "Foo" [⟨"a.html", "N"⟩]]) :=
    run_eq_lenient fun _ => by decide +kernel
  refine ⟨⟨b, hb, hlaid _ _ hb, ?_⟩, _, hstrict, (build_laid_out _ _).2 _ _ hstrict⟩
  rw [(hlaid _ _ hb).entryCount]
  decide +kernel

end SymbolIndex.Build
