import SymbolIndex.Proofs.Json.Decoded
import SymbolIndex.Proofs.Shard.Codec
import SymbolIndex.Proofs.Terminal.Indented
import SymbolIndex.Terminal.Pretty

/-!
# Shards on a terminal

A shard is shown as its indented document, sanitized. The text can be read as the shard if no text
of the shard has a high control character, and it cannot be read at all otherwise
(`read_sanitize_of_safe`, `read_sanitize_of_high`).
-/

namespace SymbolIndex.Json

variable {v : Json} {cs : List Char}

theorem Refused.read (h : Refused cs) (ws : List Char) : ∃ e, read (cs ++ ws) = .error e := by
  obtain ⟨e, he⟩ := h.stops (2 * (cs ++ ws).length + 2) ws (by simp; omega)
  have hs : skipSpace (cs ++ ws) = cs ++ ws := (h.starts.append ws).skipSpace_append blank_nil
  have hd : document (cs ++ ws) = .error e := by
    rw [document, hs, he]
    rfl
  obtain ⟨c, t, rfl, hc⟩ := h.starts
  unfold Json.read
  split
  · exact ⟨_, rfl⟩
  · rw [hd]
    exact ⟨_, rfl⟩

end SymbolIndex.Json

namespace SymbolIndex.Terminal

open Json

variable {p : Char → Prop} {s : Shard} {text : String}

/-! ### The texts of a shard -/

def entryTexts (e : Entry) : List String :=
  e.key :: e.displayName :: e.occurrences.flatMap fun o => [o.anchorUrl, o.scopeLabel]

/-- All texts that the document of a shard holds. -/
def textsOf (s : Shard) : List String := s.id :: s.entries.flatMap entryTexts

/-- A text has no control character from DEL on. -/
def Clean (t : String) : Prop := ∀ c ∈ t.toList, ¬ HighControl c

instance : DecidablePred Clean := fun t => List.decidableBAll (fun c => ¬ HighControl c) t.toList

/-- The value that the document of a shard holds. -/
def shardJson (s : Shard) : Json :=
  .obj [("format", .str Shard.formatName), ("version", .int 1), ("shard", .str s.id),
    ("entries", .arr (s.entries.map Shard.entryJson))]

theorem decoded_entryJson (e : Entry) : Decoded (Shard.entryJson e) := by
  refine .arr fun v hv => ?_
  simp only [List.mem_cons, List.not_mem_nil, or_false] at hv
  rcases hv with rfl | rfl | rfl
  · exact .str _
  · exact .str _
  · refine .arr fun w hw => ?_
    obtain ⟨o, _, rfl⟩ := List.mem_map.1 hw
    refine .arr fun u hu => ?_
    rcases List.mem_pair.1 hu with rfl | rfl <;> exact .str _

theorem decoded_shardJson (s : Shard) : Decoded (shardJson s) := by
  refine .obj (by simp [Members.names]) fun m hm => ?_
  simp only [List.mem_cons, List.not_mem_nil, or_false] at hm
  rcases hm with rfl | rfl | rfl | rfl
  · exact .str _
  · exact .int (by decide)
  · exact .str _
  · refine .arr fun v hv => ?_
    obtain ⟨e, _, rfl⟩ := List.mem_map.1 hv
    exact decoded_entryJson e

theorem read_render_eq (s : Shard) : Json.read s.render.toList = .ok (sorted (shardJson s)) := by
  rw [Shard.render, Document.render, String.toList_ofList]
  exact read_compact (decoded_shardJson s).writable

theorem safe_str_iff {t : String} : Safe (.str t) ↔ Clean t := by
  rw [Safe, texts_str_iff]
  refine forall₂_congr fun c _ => ⟨fun h hhigh => h ?_ hhigh, fun h _ => h⟩
  exact Nat.le_trans (by decide) hhigh.1

theorem safe_occurrenceJson_iff {o : Occurrence} :
    Safe (Shard.occurrenceJson o) ↔ Clean o.anchorUrl ∧ Clean o.scopeLabel := by
  rw [Shard.occurrenceJson, Safe, texts_arr_iff, List.forall_mem_cons, List.forall_mem_singleton]
  exact and_congr safe_str_iff safe_str_iff

theorem safe_entryJson_iff {e : Entry} :
    Safe (Shard.entryJson e) ↔ ∀ t ∈ entryTexts e, Clean t := by
  have hplaces : Safe (.arr (e.occurrences.map Shard.occurrenceJson)) ↔
      ∀ t ∈ e.occurrences.flatMap fun o => [o.anchorUrl, o.scopeLabel], Clean t := by
    rw [Safe, texts_arr_iff, List.forall_mem_map, List.forall_mem_flatMap]
    refine forall₂_congr fun o _ => ?_
    rw [List.forall_mem_cons, List.forall_mem_singleton]
    exact safe_occurrenceJson_iff
  rw [Shard.entryJson, entryTexts, Safe, texts_arr_iff, List.forall_mem_cons, List.forall_mem_cons,
    List.forall_mem_singleton, List.forall_mem_cons, List.forall_mem_cons]
  exact and_congr safe_str_iff (and_congr safe_str_iff hplaces)

theorem safe_shardJson_iff : Safe (shardJson s) ↔ ∀ t ∈ textsOf s, Clean t := by
  have hname : ∀ name ∈ ["format", "version", "shard", "entries", Shard.formatName],
      ∀ c ∈ name.toList, 0x20 ≤ c.toNat → ¬ HighControl c := by
    have hclean : ∀ name ∈ ["format", "version", "shard", "entries", Shard.formatName],
        Clean name := by decide
    exact fun name hname c hc _ => hclean name hname c hc
  have hentries : Safe (.arr (s.entries.map Shard.entryJson)) ↔
      ∀ t ∈ s.entries.flatMap entryTexts, Clean t := by
    rw [Safe, texts_arr_iff, List.forall_mem_map, List.forall_mem_flatMap]
    exact forall₂_congr fun e _ => safe_entryJson_iff
  rw [shardJson, textsOf, Safe, texts_obj_iff, List.forall_mem_cons (p := Clean), ← safe_str_iff,
    ← hentries]
  constructor
  · intro h
    exact ⟨(h ("shard", .str s.id) (by simp)).2, (h ("entries", _) (by simp)).2⟩
  · rintro ⟨hid, hes⟩ m hm
    simp only [List.mem_cons, List.not_mem_nil, or_false] at hm
    rcases hm with rfl | rfl | rfl | rfl
    · exact ⟨hname _ (by simp), .str (hname _ (by simp))⟩
    · exact ⟨hname _ (by simp), .int 1⟩
    · exact ⟨hname _ (by simp), hid⟩
    · exact ⟨hname _ (by simp), hes⟩

/-! ### What is shown -/

theorem prettyDocument_render (s : Shard) : prettyDocument s.render =
    .ok (String.ofList (pretty false (sorted (shardJson s)) ++ ['\n'])) := by
  rw [prettyDocument, read_render_eq]
  rfl

theorem shard_read_congr {a b : String} (h : Json.read a.toList = Json.read b.toList) :
    Shard.read a = Shard.read b := by
  unfold Shard.read Document.read
  rw [h]

theorem exists_error_of_json {e : ReadError} (h : Json.read text.toList = .error e) :
    ∃ e, Shard.read text = .error e := by
  refine ⟨.document (.unreadable e), ?_⟩
  unfold Shard.read Document.read
  rw [h]
  rfl

/-- Without a high control character, what is shown is read as the shard. -/
theorem read_sanitize_of_safe (hs : s.WellFormed) (h : ∀ t ∈ textsOf s, Clean t)
    (hp : prettyDocument s.render = .ok text) : Shard.read (sanitize text) = .ok s := by
  have hd := decoded_shardJson s
  have hsafe : Safe (sorted (shardJson s)) := hd.texts_sorted.2 (safe_shardJson_iff.2 h)
  have hfeed : Only Harmless ['\n'] := .cons (.inl rfl) only_nil
  rw [prettyDocument_render] at hp
  cases hp
  rw [← Shard.read_render hs]
  apply shard_read_congr
  rw [sanitize, String.toList_ofList, String.toList_ofList, pretty,
    sanitizeChars_append, sanitizeChars_pretty hsafe, sanitizeChars_of_harmless hfeed, ← pretty,
    read_pretty (decoded_of_read (read_render_eq s)).writable, read_render_eq, hd.sorted_sorted]

/-- With one, it cannot be read. -/
theorem read_sanitize_of_high (h : ¬ ∀ t ∈ textsOf s, Clean t)
    (hp : prettyDocument s.render = .ok text) :
    ∃ e, Shard.read (sanitize text) = .error e := by
  have hd := decoded_shardJson s
  have hbad : ¬ Safe (sorted (shardJson s)) := fun hsafe =>
    h (safe_shardJson_iff.1 (hd.texts_sorted.1 hsafe))
  rw [prettyDocument_render] at hp
  cases hp
  obtain ⟨e, he⟩ :=
    (refused_sanitizeChars (decoded_of_read (read_render_eq s)).writable hbad 0).read (sanitizeChars ['\n'])
  refine exists_error_of_json (e := e) ?_
  rwa [sanitize, String.toList_ofList, String.toList_ofList, pretty,
    sanitizeChars_append]

end SymbolIndex.Terminal
