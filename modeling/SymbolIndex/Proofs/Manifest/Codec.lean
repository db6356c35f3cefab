import SymbolIndex.Manifest
import SymbolIndex.Proofs.Document
import SymbolIndex.Proofs.Except
import SymbolIndex.Proofs.Partition.Ids

/-!
# Manifests are read back

What is read from a document is what the document states, no more and no less (`read_eq_ok`). A
manifest is read back from its own document as it was (`read_render`), unless it states a number of
more digits than a document may hold (`Writable`).
-/

namespace SymbolIndex.Manifest

open Json

/-- A whole number that documents can hold. -/
def Short (n : Int) : Prop := (Nat.toDigits 10 n.natAbs).length ≤ Text.Numeral.maxDigits

/-- The numbers of a manifest can stand in a document. -/
structure Writable (m : Manifest) : Prop where
  shardCount : ∀ n ∈ m.partition.shardCount?, Short (Int.ofNat n)
  entryCount : ∀ r ∈ m.rows, Short r.entryCount

theorem isPrintable_iff {m : Manifest} : m.isPrintable = true ↔ m.Writable := by
  simp only [isPrintable, numbers, List.all_append, Bool.and_eq_true, List.all_eq_true,
    decide_eq_true_eq, List.mem_map, Option.mem_toList, Option.map_eq_some_iff,
    forall_exists_index, and_imp, forall_apply_eq_imp_iff₂]
  exact ⟨fun ⟨hc, hr⟩ => ⟨hc, hr⟩, fun h => ⟨h.shardCount, h.entryCount⟩⟩

/-- The number of shards as a document states it. -/
def countJson (p : Partition) : Json := ((p.shardCount?.map Int.ofNat).map Json.int).getD .null

variable {m : Manifest}

theorem Writable.members (h : m.Writable) :
    ∀ e ∈ [("scheme", Json.str m.partition.scheme.name), ("shard_count", countJson m.partition),
      ("shards", .arr (m.rows.map rowJson))], Json.Writable e.2 := by
  simp only [List.mem_cons, List.not_mem_nil, or_false]
  rintro e (rfl | rfl | rfl)
  · exact .str _
  · unfold countJson
    cases hc : m.partition.shardCount? with
    | none => exact .null
    | some n => exact .int (h.shardCount n hc)
  · refine .arr fun v hv => ?_
    obtain ⟨r, hr, rfl⟩ := List.mem_map.1 hv
    refine .arr fun v hv => ?_
    simp only [List.mem_cons, List.not_mem_nil, or_false] at hv
    rcases hv with rfl | rfl
    · exact .str _
    · exact .int (h.entryCount r hr)

theorem sorted_countJson (p : Partition) : sorted (countJson p) = countJson p := by
  unfold countJson
  cases p.shardCount? <;> rfl

/-! ### Reading -/

theorem readRow_eq_ok {v : Json} {r : Row} : readRow v = .ok r ↔ v = rowJson r := by
  constructor
  · intro h
    unfold readRow at h
    split at h
    · cases h
      rfl
    · cases h
  · rintro rfl
    rfl

theorem mapM_readRow_eq_ok {items : List Json} {rows : List Row} :
    items.mapM readRow = .ok rows ↔ items = rows.map rowJson := by
  rw [mapM_eq_ok, ← List.forall₂_eq_eq_eq, List.forall₂_map_right_iff]
  simp only [readRow_eq_ok]

theorem readPartition_eq (p : Partition) :
    readPartition (.str p.scheme.name) (countJson p) = .ok p := by
  cases p with
  | alpha => rfl
  | hashed count positive =>
    have hn : 0 < (Int.ofNat count).toNat := positive
    exact dif_pos hn

theorem readPartition_eq_ok {scheme count : Json} {p : Partition} :
    readPartition scheme count = .ok p ↔ scheme = .str p.scheme.name ∧ count = countJson p := by
  constructor
  · intro h
    unfold readPartition at h
    split at h
    · cases h
    · rename_i hs
      obtain rfl := Partition.Scheme.eq_of_ofJson? hs
      split at h
      · rename_i n
        split at h
        · rename_i hn
          cases h
          have hcount : Int.ofNat n.toNat = n := by simp; omega
          exact ⟨rfl, (congrArg Json.int hcount).symm⟩
        · cases h
      · cases h
    · rename_i hs
      obtain rfl := Partition.Scheme.eq_of_ofJson? hs
      split at h
      · cases h
        exact ⟨rfl, rfl⟩
      · cases h
  · rintro ⟨rfl, rfl⟩
    exact readPartition_eq p

/-! ### What a document states -/

/-- A scheme, a shard count and rows, whether or not the first two go together. -/
structure Stated where
  scheme : String
  shardCount : Option Int
  rows : List Row

namespace Stated

def render (s : Stated) : String := renderParts s.scheme s.shardCount s.rows

def WellFormed (s : Stated) : Prop := Partition.OptionsFit s.scheme s.shardCount

/-- No number has more digits than a document may hold. -/
def Printable (s : Stated) : Prop := (∀ n ∈ s.shardCount, Short n) ∧ ∀ r ∈ s.rows, Short r.entryCount

end Stated

/-- What the document of a manifest states. -/
def stated (m : Manifest) : Stated :=
  ⟨m.partition.scheme.name, m.partition.shardCount?.map Int.ofNat, m.rows⟩

/-- A text is a document of these parts: the scheme is a text, the shard count a whole number or
null, and each row a pair of a text and a whole number. -/
def States (text : String) (s : Stated) : Prop :=
  ∃ members, Document.read formatName text = .ok members ∧
    Document.field members "scheme" = .str s.scheme ∧
    Document.field members "shard_count" = (s.shardCount.map Json.int).getD .null ∧
    Document.field members "shards" = .arr (s.rows.map rowJson)

/-- A text states one thing only. -/
theorem States.unique {text : String} {s t : Stated} (hs : States text s) (ht : States text t) :
    s = t := by
  obtain ⟨scheme, count, rows⟩ := s
  obtain ⟨scheme', count', rows'⟩ := t
  obtain ⟨members, hmembers, hscheme, hcount, hrows⟩ := hs
  obtain ⟨members', hmembers', hscheme', hcount', hrows'⟩ := ht
  obtain rfl := Except.ok.inj (hmembers.symm.trans hmembers')
  obtain rfl : scheme = scheme' := Json.str.inj (hscheme.symm.trans hscheme')
  obtain rfl : count = count' := by
    have h := hcount.symm.trans hcount'
    cases count <;> cases count' <;> simp_all
  obtain rfl : rows = rows' := by
    have h := Json.arr.inj (hrows.symm.trans hrows')
    refine List.map_injective_iff.2 (fun a b hab => ?_) h
    cases a
    cases b
    simp_all [rowJson]
  rfl

theorem wellFormed_stated (m : Manifest) : m.stated.WellFormed := m.partition.optionsFit

theorem exists_stated {s : Stated} (h : s.WellFormed) : ∃ m : Manifest, m.stated = s := by
  obtain ⟨p, hscheme, hcount⟩ := Partition.exists_of_optionsFit h
  refine ⟨⟨p, s.rows⟩, ?_⟩
  rw [stated, hscheme, hcount]

theorem printable_stated : m.stated.Printable ↔ m.Writable := by
  constructor
  · rintro ⟨hcount, hrows⟩
    exact ⟨fun n hn => hcount _ (Option.mem_map_of_mem Int.ofNat hn), hrows⟩
  · rintro ⟨hcount, hrows⟩
    refine ⟨fun n hn => ?_, hrows⟩
    obtain ⟨count, hc, rfl⟩ := Option.map_eq_some_iff.1 hn
    exact hcount count hc

/-- A manifest is read from a text if it is what the text states. -/
theorem read_eq_ok {text : String} : read text = .ok m ↔ States text m.stated := by
  unfold read
  simp only [bind_eq_ok, mapError_eq_ok, readPartition_eq_ok]
  constructor
  · rintro ⟨members, hmembers, p, ⟨hscheme, hcount⟩, h⟩
    split at h
    · rename_i items hitems
      obtain ⟨rows, hrows, h⟩ := bind_eq_ok.1 h
      cases h
      rw [mapM_readRow_eq_ok] at hrows
      exact ⟨members, hmembers, hscheme, hcount, hrows ▸ hitems⟩
    · cases h
  · rintro ⟨members, hmembers, hscheme, hcount, hrows⟩
    refine ⟨members, hmembers, m.partition, ⟨hscheme, hcount⟩, ?_⟩
    rw [hrows]
    exact bind_eq_ok.2 ⟨m.rows, mapM_readRow_eq_ok.2 rfl, rfl⟩

/-- Numbers that were read can be written. -/
theorem writable_of_read {text : String} (h : read text = .ok m) : m.Writable := by
  obtain ⟨members, hmembers, -, hcount, hrows⟩ := read_eq_ok.1 h
  have hdecoded := Document.decoded_of_read hmembers
  refine ⟨fun n hn => ?_, fun r hr => ?_⟩
  · have hfield := Document.decoded_field hdecoded "shard_count"
    rw [hcount, stated, Option.mem_def.1 hn] at hfield
    cases hfield
    assumption
  · have hfield := Document.decoded_field hdecoded "shards"
    rw [hrows] at hfield
    cases hfield with
    | arr hitems =>
      cases hitems _ (List.mem_map_of_mem hr) with
      | arr hparts =>
        cases hparts (.int r.entryCount) (by simp)
        assumption

/-! ### Reading back -/

theorem unify_render (h : m.Writable) : Text.Lines.unify m.render.toList = m.render.toList :=
  Document.unify_render formatName h.members

theorem read_render (h : m.Writable) : read m.render = .ok m := by
  obtain ⟨members, hm, hf⟩ := Document.read_render formatName _ (by simp [Members.names]) h.members
  refine read_eq_ok.2 ⟨members, hm, ?_, ?_, ?_⟩
  · exact hf "scheme" (.str m.partition.scheme.name) (by simp)
  · rw [hf "shard_count" (countJson m.partition) (by simp), sorted_countJson]
    rfl
  · rw [hf "shards" (.arr (m.rows.map rowJson)) (by simp), sorted, sortedItems_eq, List.map_map]
    congr 2

end SymbolIndex.Manifest
