import SymbolIndex.Proofs.CharRef
import SymbolIndex.Proofs.Except
import SymbolIndex.Proofs.Json.Items
import SymbolIndex.Proofs.Key.Escape
import SymbolIndex.Proofs.SearchData.Strings
import SymbolIndex.Proofs.Text.Lines
import SymbolIndex.SearchData.Basic

/-!
# Search data files are read back

Each row that is written is the text of the value `rowJson`, and reading that row gives the record
of the entry (`readRow_rowJson`). Around the rows stand the variable in front and the semicolon
behind, which `read` takes away again.

A file holds the names, the scopes and the urls of its shard with all their carriage returns, and
no others (`return_not_mem_render`).
-/

namespace SymbolIndex.SearchData

open Json

variable {e : Entry} {s : Shard}

/-! ### Rows as values -/

/-- The value of a string that is written with references. -/
def escaped (text : String) : Json := .str (String.ofList (CharRef.escape text.toList))

def occurrenceJson (o : Occurrence) : Json := .arr [.str o.anchorUrl, .int 1, escaped o.scopeLabel]

def rowJson (e : Entry) : Json :=
  .arr [.str (Key.escape e.key), .arr (escaped e.displayName :: e.occurrences.map occurrenceJson)]

theorem means_quote (text : String) : Means (quote text.toList) (.str text) := by
  have h := Means.quote text.toList
  rwa [String.ofList_toList] at h

/-- Escaped keys need no references. -/
theorem quoteText_escape (key : String) :
    quoteText (Key.escape key) = quote (Key.escape key).toList := by
  rw [quoteText, CharRef.escape_of_forall]
  intro c hc
  have h := Key.isEscapedChar_of_mem_escape hc
  refine ⟨?_, ?_, ?_⟩ <;> (rintro rfl; exact absurd h (by decide))

theorem means_one : Means ['1'] (.int 1) :=
  .plain (by simp) (Reads.int (by decide))

theorem means_occurrenceText (o : Occurrence) : Means (occurrenceText o) (occurrenceJson o) := by
  have h : List.Forall₂ Means [quote o.anchorUrl.toList, ['1'], quoteText o.scopeLabel]
      [.str o.anchorUrl, .int 1, escaped o.scopeLabel] :=
    .cons (means_quote _) (.cons means_one (.cons (.quote _) .nil))
  have := Means.array h (by simp) blank_nil blank_nil blank_nil
  simpa [occurrenceText, occurrenceJson, List.intercalate] using this

/-- The text of a row without its indent. -/
def rowCore (e : Entry) : List Char :=
  '[' :: (quoteText (Key.escape e.key) ++ ',' :: '[' :: (quoteText e.displayName ++
    ',' :: ([','].intercalate (e.occurrences.map occurrenceText) ++ [']', ']'])))

theorem rowText_eq (e : Entry) : rowText e = [' ', ' '] ++ rowCore e := by
  simp [rowText, rowCore]

theorem means_rowCore (h : e.occurrences ≠ []) : Means (rowCore e) (rowJson e) := by
  have hplaces : List.Forall₂ Means (e.occurrences.map occurrenceText)
      (e.occurrences.map occurrenceJson) := by
    rw [List.forall₂_map_left_iff, List.forall₂_map_right_iff, List.forall₂_same]
    exact fun o _ => means_occurrenceText o
  have hinner := Means.array (.cons (.quote (CharRef.escape e.displayName.toList)) hplaces)
    (by simp) blank_nil blank_nil blank_nil
  have houter := Means.array (.cons (means_quote (Key.escape e.key)) (.cons hinner .nil)) (by simp)
    blank_nil blank_nil blank_nil
  have hjoin : ∀ t : List Char, [','].intercalate (t :: e.occurrences.map occurrenceText) =
      t ++ ',' :: [','].intercalate (e.occurrences.map occurrenceText) := by
    intro t
    obtain ⟨o, os, hos⟩ := List.exists_cons_of_ne_nil h
    rw [hos, List.map_cons, List.intercalate_cons_cons, List.append_assoc, List.singleton_append]
  rw [hjoin, List.intercalate_cons_cons, List.intercalate_singleton] at houter
  rw [rowCore, quoteText_escape, quoteText, rowJson, escaped]
  simpa using houter

/-! ### Reading rows -/

theorem plainText_escaped (text : String) : plainText (escaped text) = .ok text := by
  simp only [plainText, escaped, String.toList_ofList, CharRef.unescape_escape,
    String.ofList_toList]

theorem readOccurrence_occurrenceJson (key : Json) (o : Occurrence) :
    readOccurrence key (occurrenceJson o) = .ok o := by
  have h : (([Json.int 1, escaped o.scopeLabel])[1]?).getD (.str "") = escaped o.scopeLabel := rfl
  rw [occurrenceJson, readOccurrence, h, plainText_escaped]
  rfl

/-- The record that the row of an entry is read as. -/
def recordOf (e : Entry) : Record := .ofText e.key.toLower e.displayName e.occurrences

/-- An escaped key is read from its row, since it has no U+FFFD and so no surrogate. -/
theorem readKey_escape {text : List Char} {vs : List Json} (key : String)
    (h : Begins text (.arr (.str (Key.escape key) :: vs))) :
    readKey (headPoints text) (.str (Key.escape key)) = .ok key.toLower := by
  have hplain : '\uFFFD' ∉ (Key.escape key).toList :=
    fun hc => absurd (Key.isEscapedChar_of_mem_escape hc) (by decide)
  have hnone : Key.unencodable? 0 (headPoints text) = none :=
    Key.unencodable?_eq_none_iff.2 fun _ => surrogate_not_mem_headPoints h hplain
  simp only [readKey, hnone, Key.unescape_escape]

theorem readRow_rowJson {text : List Char} (h : Begins text (rowJson e)) :
    readRow (headPoints text) (rowJson e) = .ok (recordOf e) := by
  have hplaces :
      (e.occurrences.map occurrenceJson).mapM (readOccurrence (.str (Key.escape e.key))) =
        .ok e.occurrences :=
    mapM_map_ok fun o _ => readOccurrence_occurrenceJson _ o
  rw [rowJson, readRow, hplaces, plainText_escaped]
  simp only [bind, Except.bind, readKey_escape e.key h]
  rfl

theorem mapM_readRow {texts : List (List Char)} {es : List Entry}
    (h : List.Forall₂ Begins texts (es.map rowJson)) :
    ((texts.zip (es.map rowJson)).mapM fun (text, row) => readRow (headPoints text) row) =
      .ok (es.map recordOf) := by
  rw [mapM_eq_ok]
  induction es generalizing texts with
  | nil =>
    cases h
    exact .nil
  | cons e es ih =>
    obtain _ | ⟨hbegins, h⟩ := h
    exact .cons (readRow_rowJson hbegins) (ih h)

/-! ### The array -/

/-- The array of a file, without the variable and the semicolon. -/
def body (s : Shard) : List Char :=
  '[' :: ('\n' :: ([',', '\n'].intercalate (s.entries.map rowText) ++ ['\n', ']']))

/-- An indent in front of each item is one in front of all and one behind each separator. -/
theorem intercalate_map_append {w sep : List Char} {ts : List (List Char)} (hne : ts ≠ []) :
    sep.intercalate (ts.map fun t => w ++ t) = w ++ (sep ++ w).intercalate ts := by
  induction ts with
  | nil => exact absurd rfl hne
  | cons t ts ih =>
    cases ts with
    | nil => simp
    | cons t' ts =>
      have := ih (by simp)
      simp only [List.map_cons] at this ⊢
      rw [List.intercalate_cons_cons, this, List.intercalate_cons_cons]
      simp

theorem read_requote_body (h : ∀ e ∈ s.entries, e.occurrences ≠ []) :
    Json.read (requote (body s)) = .ok (.arr (s.entries.map rowJson)) := by
  have hblank : ∀ w : List Char, w.all isSpace = true → Blank w := fun w hw => List.all_eq_true.1 hw
  rcases List.eq_nil_or_concat s.entries with hnil | ⟨_, _, hcons⟩
  · rw [body, hnil]
    exact Means.read ⟨_, .gap (by simp), .arr_nil (hblank ['\n', '\n'] (by decide))⟩
  · have hrows : List.Forall₂ Means (s.entries.map rowCore) (s.entries.map rowJson) := by
      rw [List.forall₂_map_left_iff, List.forall₂_map_right_iff, List.forall₂_same]
      exact fun e he => means_rowCore (h e he)
    have hne : s.entries.map rowCore ≠ [] := by simp [hcons]
    have hmeans := Means.array hrows hne (hblank ['\n', ' ', ' '] (by decide))
      (hblank ['\n', ' ', ' '] (by decide)) (hblank ['\n'] (by decide))
    have htext : s.entries.map rowText = (s.entries.map rowCore).map fun t => [' ', ' '] ++ t := by
      rw [List.map_map]
      exact List.map_congr_left fun e _ => rowText_eq e
    rw [body, htext, intercalate_map_append hne]
    simpa using hmeans.read

/-! ### The file -/

theorem trimStart_cons_of_neg {c : Char} (t : List Char) (h : Unicode.isBlank c = false) :
    Unicode.trimStart (c :: t) = c :: t :=
  List.dropWhile_cons_of_neg (by simp [h])

theorem trimEnd_concat_of_pos {c : Char} (t : List Char) (h : Unicode.isBlank c = true) :
    Unicode.trimEnd (t ++ [c]) = Unicode.trimEnd t := by
  rw [Unicode.trimEnd, List.reverse_concat, List.dropWhile_cons_of_pos h, Unicode.trimEnd]

theorem trimEnd_concat_of_neg {c : Char} (t : List Char) (h : Unicode.isBlank c = false) :
    Unicode.trimEnd (t ++ [c]) = t ++ [c] := by
  rw [Unicode.trimEnd, List.reverse_concat, List.dropWhile_cons_of_neg (by simp [h]),
    List.reverse_cons, List.reverse_reverse]

/-- Only the semicolon and the line end behind it are taken away from an array. -/
theorem trimBody_bracketed (t : List Char) :
    trimBody ('[' :: (t ++ [']']) ++ [';'] ++ ['\n']) = '[' :: (t ++ [']']) := by
  have hfirst : Unicode.trim ('[' :: (t ++ [']']) ++ [';'] ++ ['\n']) =
      '[' :: (t ++ [']']) ++ [';'] := by
    rw [Unicode.trim, List.cons_append, List.cons_append, trimStart_cons_of_neg _ (by decide),
      ← List.cons_append, trimEnd_concat_of_pos _ (by decide), ← List.cons_append,
      trimEnd_concat_of_neg _ (by decide)]
  have hlast : Unicode.trim ('[' :: (t ++ [']'])) = '[' :: (t ++ [']']) := by
    rw [Unicode.trim, trimStart_cons_of_neg _ (by decide), ← List.cons_append,
      trimEnd_concat_of_neg _ (by decide)]
  rw [trimBody, hfirst, List.reverse_concat, List.dropWhile_cons_of_pos (by decide),
    ← List.cons_append, List.reverse_concat, List.dropWhile_cons_of_neg (by decide),
    List.reverse_cons, List.reverse_reverse, List.cons_append, hlast]

theorem afterVariable?_append (t : List Char) :
    afterVariable? ("var searchData=\n".toList ++ '[' :: t) = some ('[' :: t) := rfl

theorem toList_render (s : Shard) :
    (render s).toList = "var searchData=\n".toList ++ (body s ++ [';'] ++ ['\n']) := by
  have hfront : "var searchData=\n[\n".toList = "var searchData=\n".toList ++ ['[', '\n'] := by
    decide
  have hback : "\n];\n".toList = ['\n', ']', ';', '\n'] := by decide
  have h : (render s).toList = "var searchData=\n[\n".toList ++
      [',', '\n'].intercalate (s.entries.map rowText) ++ "\n];\n".toList := String.toList_ofList
  rw [h, hfront, hback, body]
  simp only [List.append_assoc, List.cons_append, List.nil_append]

/-- The records of a file that was written are those of the entries, in order. -/
theorem read_render (h : ∀ e ∈ s.entries, e.occurrences ≠ []) :
    read (render s) = .ok (s.entries.map recordOf) := by
  have hvariable : afterVariable? (render s).toList = some (body s ++ [';'] ++ ['\n']) := by
    rw [toList_render]
    exact afterVariable?_append _
  have hbody : trimBody (body s ++ [';'] ++ ['\n']) = body s := by
    have := trimBody_bracketed ('\n' :: ([',', '\n'].intercalate (s.entries.map rowText) ++ ['\n']))
    simpa [body] using this
  unfold read
  rw [hvariable]
  have harray := read_requote_body h
  simp only [arrayText, hbody, harray]
  exact mapM_readRow (begins_of_read harray)

/-! ### Carriage returns -/

theorem return_not_mem_quote {value : List Char} (h : '\r' ∉ value) : '\r' ∉ quote value := by
  have hvalue : '\r' ∉ value.flatMap quoteChar := by
    intro hc
    obtain ⟨c, hmem, hc⟩ := List.mem_flatMap.1 hc
    unfold quoteChar at hc
    split at hc
    · rename_i hquote
      rcases List.mem_pair.1 hc with hc | rfl
      · cases hc
      · exact absurd hquote (by decide)
    · exact h (List.mem_singleton.1 hc ▸ hmem)
  simpa [quote] using hvalue

theorem return_not_mem_escape {text : List Char} (h : '\r' ∉ text) :
    '\r' ∉ CharRef.escape text := by
  intro hc
  obtain ⟨c, hmem, hc⟩ := List.mem_flatMap.1 hc
  unfold CharRef.escapeChar at hc
  split at hc
  · exact absurd hc (by decide)
  split at hc
  · exact absurd hc (by decide)
  split at hc
  · exact absurd hc (by decide)
  · exact h (List.mem_singleton.1 hc ▸ hmem)

theorem return_not_mem_quoteText {text : String} (h : '\r' ∉ text.toList) : '\r' ∉ quoteText text :=
  return_not_mem_quote (return_not_mem_escape h)

/-- The texts of an entry that a search data file holds as they are. -/
def texts (e : Entry) : List String :=
  e.displayName :: e.occurrences.flatMap fun o => [o.anchorUrl, o.scopeLabel]

theorem return_not_mem_rowText (h : ∀ t ∈ texts e, '\r' ∉ t.toList) : '\r' ∉ rowText e := by
  have hkey : '\r' ∉ quoteText (Key.escape e.key) := by
    refine return_not_mem_quoteText fun hc => ?_
    exact absurd (Key.isEscapedChar_of_mem_escape hc) (by decide)
  have hname : '\r' ∉ quoteText e.displayName :=
    return_not_mem_quoteText (h _ List.mem_cons_self)
  have hplaces : '\r' ∉ [','].intercalate (e.occurrences.map occurrenceText) := by
    intro hc
    rcases Text.Lines.mem_of_mem_intercalate hc with hc | ⟨part, hpart, hc⟩
    · exact absurd hc (by decide)
    obtain ⟨o, ho, rfl⟩ := List.mem_map.1 hpart
    have htext : ∀ t ∈ [o.anchorUrl, o.scopeLabel], '\r' ∉ t.toList := fun t ht =>
      h t (List.mem_cons_of_mem _ (List.mem_flatMap.2 ⟨o, ho, ht⟩))
    have hurl := return_not_mem_quote (htext o.anchorUrl (by simp))
    have hscope := return_not_mem_quoteText (htext o.scopeLabel (by simp))
    simp [occurrenceText, hurl, hscope] at hc
  simp [rowText, hkey, hname, hplaces]

theorem return_not_mem_render (h : ∀ e ∈ s.entries, ∀ t ∈ texts e, '\r' ∉ t.toList) :
    '\r' ∉ (render s).toList := by
  have hrows : '\r' ∉ [',', '\n'].intercalate (s.entries.map rowText) := by
    intro hc
    rcases Text.Lines.mem_of_mem_intercalate hc with hc | ⟨part, hpart, hc⟩
    · exact absurd hc (by decide)
    obtain ⟨e, he, rfl⟩ := List.mem_map.1 hpart
    exact return_not_mem_rowText (h e he) hc
  have hfront : '\r' ∉ "var searchData=\n".toList := by decide
  rw [toList_render, body]
  simp only [List.mem_append, List.mem_cons, List.not_mem_nil, hfront, hrows, Char.reduceEq,
    or_self, not_false_eq_true]

end SymbolIndex.SearchData
