import SymbolIndex.Proofs.Document
import SymbolIndex.Shard

/-!
# Shards and their documents

What is read from a document is what the document states, if that is a well-formed shard
(`read_eq_ok`). Every well-formed shard is read back from its own document (`read_render`). So
writing what was read is a normal form of documents (`codec_range_and_normal_form`).
-/

namespace SymbolIndex.Shard

open Json

/-! ### Writing -/

theorem sorted_occurrenceJson (o : Occurrence) : sorted (occurrenceJson o) = occurrenceJson o := rfl

theorem sorted_entryJson (e : Entry) : sorted (entryJson e) = entryJson e := by
  simp [entryJson, sorted, sortedItems_eq, sorted_occurrenceJson, Function.comp_def]

theorem writable_occurrenceJson (o : Occurrence) : Writable (occurrenceJson o) :=
  .arr fun v hv => by
    rcases List.mem_pair.1 hv with rfl | rfl <;> exact .str _

theorem writable_entryJson (e : Entry) : Writable (entryJson e) := by
  refine .arr fun v hv => ?_
  simp only [List.mem_cons, List.not_mem_nil, or_false] at hv
  rcases hv with rfl | rfl | rfl
  · exact .str _
  · exact .str _
  · refine .arr fun w hw => ?_
    obtain ⟨o, _, rfl⟩ := List.mem_map.1 hw
    exact writable_occurrenceJson o

/-! ### Reading -/

theorem readOccurrence_eq_ok {key : String} {v : Json} {o : Occurrence} :
    readOccurrence key v = .ok o ↔ v = occurrenceJson o := by
  constructor
  · intro h
    unfold readOccurrence at h
    split at h
    · cases h
      rfl
    · cases h
  · rintro rfl
    rfl

theorem mapM_readOccurrence_eq_ok {key : String} {items : List Json} {os : List Occurrence} :
    items.mapM (readOccurrence key) = .ok os ↔ items = os.map occurrenceJson := by
  rw [mapM_eq_ok, ← List.forall₂_eq_eq_eq, List.forall₂_map_right_iff]
  simp only [readOccurrence_eq_ok]

theorem readEntry_eq_ok {v : Json} {e : Entry} :
    readEntry v = .ok e ↔ v = entryJson e ∧ e.key ≠ "" ∧ e.occurrences ≠ [] := by
  constructor
  · intro h
    unfold readEntry at h
    split at h
    · split at h
      · split at h
        · cases h
        · rename_i hk
          split at h
          · obtain ⟨os, hos, h⟩ := bind_eq_ok.1 h
            cases h
            rw [mapM_readOccurrence_eq_ok] at hos
            refine ⟨by rw [entryJson, hos], hk, fun hnil => ?_⟩
            rw [show os = [] from hnil] at hos
            cases hos
          · cases h
      · cases h
    · cases h
  · rintro ⟨rfl, hk, ho⟩
    have hread : (e.occurrences.map occurrenceJson).mapM (readOccurrence e.key) =
        .ok e.occurrences := mapM_readOccurrence_eq_ok.2 rfl
    obtain ⟨o, os, hos⟩ := List.exists_cons_of_ne_nil ho
    rw [hos, List.map_cons] at hread
    simp only [readEntry, entryJson, hk, if_false, hos, List.map_cons, hread, bind, Except.bind]
    rw [← hos]
    rfl

theorem mapM_readEntry_eq_ok {items : List Json} {es : List Entry} :
    items.mapM readEntry = .ok es ↔
      items = es.map entryJson ∧ ∀ e ∈ es, e.key ≠ "" ∧ e.occurrences ≠ [] := by
  rw [mapM_eq_ok]
  simp only [readEntry_eq_ok]
  induction items generalizing es with
  | nil => cases es <;> simp
  | cons v items ih =>
    cases es with
    | nil => simp
    | cons e es =>
      rw [List.forall₂_cons, ih, List.map_cons, List.cons.injEq, List.forall_mem_cons]
      tauto

theorem repeatedKey?_eq_none {seen : List String} {es : List Entry} :
    repeatedKey? seen es = none ↔ (es.map (·.key)).Nodup ∧ ∀ e ∈ es, e.key ∉ seen := by
  induction es generalizing seen with
  | nil => simp [repeatedKey?]
  | cons e es ih =>
    rw [repeatedKey?]
    split
    · rename_i he
      simp [he]
    · rename_i he
      rw [ih]
      simp only [List.mem_cons, not_or, List.map_cons, List.nodup_cons, List.mem_map]
      constructor
      · rintro ⟨hn, hs⟩
        refine ⟨⟨?_, hn⟩, ?_⟩
        · rintro ⟨d, hd, hk⟩; exact (hs d hd).1 hk
        · rintro d (rfl | hd)
          · exact he
          · exact (hs d hd).2
      · rintro ⟨⟨hne, hn⟩, hs⟩
        exact ⟨hn, fun d hd => ⟨fun hk => hne ⟨d, hd, hk⟩, hs d (.inr hd)⟩⟩

/-- A text is a document of the id and the entries of a shard. -/
def States (text : String) (s : Shard) : Prop :=
  ∃ members, Document.read formatName text = .ok members ∧
    Document.field members "shard" = .str s.id ∧
    Document.field members "entries" = .arr (s.entries.map entryJson)

/-- A shard is read from a text if it is what the text states, and well-formed. -/
theorem read_eq_ok {text : String} {s : Shard} :
    read text = .ok s ↔ States text s ∧ s.WellFormed := by
  constructor
  · intro h
    unfold read at h
    obtain ⟨members, hm, h⟩ := bind_eq_ok.1 h
    split at h
    · rename_i hshard
      simp only at h
      split at h
      · cases h
      rename_i hid
      split at h
      · rename_i hentries
        obtain ⟨es, hes, h⟩ := bind_eq_ok.1 h
        split at h
        · cases h
        · rename_i hrep
          cases h
          obtain ⟨hitems, he⟩ := mapM_readEntry_eq_ok.1 hes
          exact ⟨⟨members, mapError_eq_ok.1 hm, hshard, hitems ▸ hentries⟩, hid,
            (repeatedKey?_eq_none.1 hrep).1, he⟩
      · cases h
    · cases h
  · rintro ⟨⟨members, hm, hshard, hentries⟩, hid, hn, he⟩
    have hread : (s.entries.map entryJson).mapM readEntry = .ok s.entries :=
      mapM_readEntry_eq_ok.2 ⟨rfl, he⟩
    have hrep : repeatedKey? [] s.entries = none := repeatedKey?_eq_none.2 ⟨hn, by simp⟩
    unfold read
    rw [hm]
    simp only [Except.mapError, bind, Except.bind, hshard, hentries, if_neg hid, hread, hrep]
    rfl

theorem wellFormed_of_read {text : String} {s : Shard} (h : read text = .ok s) :
    s.WellFormed := (read_eq_ok.1 h).2

/-! ### Reading back -/

theorem sorted_entries (es : List Entry) :
    sorted (.arr (es.map entryJson)) = .arr (es.map entryJson) := by
  rw [sorted, sortedItems_eq, List.map_map]
  exact congrArg Json.arr (List.map_congr_left fun e _ => sorted_entryJson e)

/-- The order of members says nothing about a shard. -/
theorem States.of_sorted {text text' : String} {s : Shard} {v : Json} (h : States text s)
    (hv : Json.read text.toList = .ok v) (hv' : Json.read text'.toList = .ok (sorted v)) :
    States text' s := by
  obtain ⟨members, hm, hshard, hentries⟩ := h
  obtain rfl : v = .obj members := Except.ok.inj (hv.symm.trans (Document.read_eq_ok.1 hm).1)
  obtain ⟨hm', hfield⟩ := Document.read_of_sorted hm hv'
  refine ⟨_, hm', ?_, ?_⟩
  · rw [hfield, hshard]
    rfl
  · rw [hfield, hentries, sorted_entries]

theorem writable_members (s : Shard) :
    ∀ m ∈ [("shard", Json.str s.id), ("entries", .arr (s.entries.map entryJson))],
      Writable m.2 := by
  simp only [List.mem_cons, List.not_mem_nil, or_false]
  rintro m (rfl | rfl)
  · exact .str _
  · refine .arr fun v hv => ?_
    obtain ⟨e, _, rfl⟩ := List.mem_map.1 hv
    exact writable_entryJson e

theorem unify_render (s : Shard) : Text.Lines.unify s.render.toList = s.render.toList :=
  Document.unify_render formatName s.writable_members

theorem read_render {s : Shard} (h : s.WellFormed) : read s.render = .ok s := by
  obtain ⟨members, hm, hf⟩ := Document.read_render formatName
    [("shard", .str s.id), ("entries", .arr (s.entries.map entryJson))]
    (by simp [Members.names]) s.writable_members
  refine read_eq_ok.2 ⟨⟨members, hm, hf "shard" (.str s.id) (by simp), ?_⟩, h⟩
  rw [hf "entries" (.arr (s.entries.map entryJson)) (by simp), sorted_entries]

/-- What a document says, written anew. -/
def normalForm (text : String) : Except ReadError String := do return (← read text).render

theorem normalForm_eq_ok {text doc : String} :
    normalForm text = .ok doc ↔ ∃ s, read text = .ok s ∧ s.render = doc := by
  simp only [normalForm, bind_eq_ok]
  constructor
  · rintro ⟨s, hs, h⟩; cases h; exact ⟨s, hs, rfl⟩
  · rintro ⟨s, hs, rfl⟩; exact ⟨s, hs, rfl⟩

/-- The shards that can be read are the well-formed ones; each is read back from its document,
so no two of them share one, and every text that is read has a normal form that says the same. -/
theorem codec_range_and_normal_form :
    (∀ s : Shard, s.WellFormed → read s.render = .ok s) ∧
    (∀ text s, read text = .ok s → s.WellFormed) ∧
    (∀ s t : Shard, s.WellFormed → t.WellFormed → s.render = t.render → s = t) ∧
    ∀ text doc, normalForm text = .ok doc → read doc = read text ∧ normalForm doc = .ok doc := by
  refine ⟨fun s => read_render, fun text s => wellFormed_of_read, ?_, ?_⟩
  · intro s t hs ht heq
    have h := read_render hs
    rw [heq, read_render ht] at h
    cases h; rfl
  · intro text doc h
    obtain ⟨s, hs, rfl⟩ := normalForm_eq_ok.1 h
    have hr := read_render (wellFormed_of_read hs)
    exact ⟨by rw [hr, hs], normalForm_eq_ok.2 ⟨s, hr, rfl⟩⟩

/-- Quotes, backslashes, control characters, DEL, a line separator and a character beyond the
sixteen-bit range. -/
def awkward : Shard :=
  ⟨"x\"\\", [⟨"~", "", [⟨"", "\x00\x1f\x7f\u2028"⟩, ⟨"", "\x00\x1f\x7f\u2028"⟩]⟩,
    ⟨"\n", "😀\r\t", [⟨"/a.html#b", ""⟩]⟩]⟩

/-- A document with blanks, another order of members, an escape and a member of no meaning. -/
def looseDocument : String :=
  "\x7b \"version\":true, \"shard\":\"\\u0061\", \"x\":[null], " ++
    "\"format\":\"docsearch-shard\",\"entries\":[]\x7d"

theorem codec_of_awkward_and_loose :
    awkward.WellFormed ∧ read awkward.render = .ok awkward ∧
      normalForm looseDocument = .ok (Shard.render ⟨"a", []⟩) ∧
      normalForm (Shard.render ⟨"a", []⟩) = .ok (Shard.render ⟨"a", []⟩) := by
  have hw : awkward.WellFormed := ⟨by decide, by decide, by decide⟩
  have hl : normalForm looseDocument = .ok (Shard.render ⟨"a", []⟩) :=
    normalForm_eq_ok.2 ⟨_, toOption_eq_some.1 (by decide +kernel), rfl⟩
  exact ⟨hw, codec_range_and_normal_form.1 _ hw, hl, (codec_range_and_normal_form.2.2.2 _ _ hl).2⟩

end SymbolIndex.Shard
