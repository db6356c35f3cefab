import SymbolIndex.Proofs.Terminal.Sanitize
import SymbolIndex.Terminal.Listing

/-!
# The rows of a listing

A line feed stands behind each row of a listing (`toList_listing`), so the lines of a listing are
those of its rows, in order (`lines_listing`). Sanitizing leaves line feeds and carriage returns in
place (`oneLine_sanitize`). So each row stands on one line if no text that is listed has one of
these, and otherwise some row is split (`listing_rows_are_lines`).
-/

namespace SymbolIndex.Terminal

open Match

variable {c d : Char} {s t row : String} {rows : List String} {g : Group} {gs : List Group}
  {r : Result}

/-! ### Lines -/

def isLineBreak (c : Char) : Bool := c == '\n' || c == '\r'

/-- The texts between the line breaks of a text, the first and the last included. -/
def lines (t : String) : List String := (t.toList.splitOnP isLineBreak).map String.ofList

/-- A text without a line break. -/
def OneLine (t : String) : Prop := ∀ c ∈ t.toList, isLineBreak c = false

instance : DecidablePred OneLine := fun t => List.decidableBAll (isLineBreak · = false) t.toList

theorem oneLine_append : OneLine (s ++ t) ↔ OneLine s ∧ OneLine t := by
  unfold OneLine
  rw [String.toList_append, List.forall_mem_append]

theorem lines_ne_nil (t : String) : lines t ≠ [] := by
  rw [lines, Ne, List.map_eq_nil_iff]
  exact List.splitOnP_ne_nil _ _

/-- A line break ends the line in front of it. -/
theorem lines_append_cons (h : isLineBreak c = true) (cs ds : List Char) :
    lines (String.ofList (cs ++ c :: ds)) =
      lines (String.ofList cs) ++ lines (String.ofList ds) := by
  simp only [lines, String.toList_ofList, List.splitOnP_append_cons _ _ h, List.map_append]

theorem lines_eq_singleton (h : OneLine t) : lines t = [t] := by
  rw [lines, List.splitOnP_eq_singleton h, List.map_singleton, String.ofList_toList]

theorem oneLine_of_length (h : (lines t).length = 1) : OneLine t := by
  intro c hc
  by_contra hbreak
  rw [Bool.not_eq_false] at hbreak
  obtain ⟨before, behind, heq⟩ := List.append_of_mem hc
  have hcut := lines_append_cons hbreak before behind
  rw [← heq, String.ofList_toList] at hcut
  have hfirst := List.length_pos_iff.2 (lines_ne_nil (String.ofList before))
  have hlast := List.length_pos_iff.2 (lines_ne_nil (String.ofList behind))
  rw [hcut, List.length_append] at h
  omega

theorem length_le_flatMap_lines (rows : List String) :
    rows.length ≤ (rows.flatMap lines).length := by
  induction rows with
  | nil => exact Nat.le_refl 0
  | cons row rows ih =>
    have hrow := List.length_pos_iff.2 (lines_ne_nil row)
    rw [List.flatMap_cons, List.length_append, List.length_cons]
    omega

/-- The lines of texts are as many as the texts only if each text is one line. -/
theorem flatMap_lines_iff : rows.flatMap lines = rows ↔ ∀ row ∈ rows, OneLine row := by
  constructor
  · intro h
    replace h := congrArg List.length h
    induction rows with
    | nil => exact List.forall_mem_nil _
    | cons row rows ih =>
      have hrow := List.length_pos_iff.2 (lines_ne_nil row)
      have hrest := length_le_flatMap_lines rows
      rw [List.flatMap_cons, List.length_append, List.length_cons] at h
      exact List.forall_mem_cons.2 ⟨oneLine_of_length (by omega), ih (by omega)⟩
  · intro h
    rw [List.flatMap_congr fun row hrow => lines_eq_singleton (h row hrow), List.flatMap_singleton']

/-! ### Rows -/

theorem isLineBreak_of_printable (h : Json.Printable c) : isLineBreak c = false := by
  have hne : ∀ e, e.toNat < 0x20 → c ≠ e := by
    rintro e he rfl
    exact absurd h.1 (Nat.not_le.2 he)
  rw [isLineBreak, beq_false_of_ne (hne '\n' (by decide)), beq_false_of_ne (hne '\r' (by decide))]
  rfl

theorem isLineBreak_of_isControl (h : isControl c = true) : isLineBreak c = false := by
  rw [isLineBreak, Bool.or_eq_false_iff, beq_eq_false_iff_ne, beq_eq_false_iff_ne]
  constructor <;> (rintro rfl; exact absurd h (by decide))

/-- A line break that is sanitized stays, and none comes from another character. -/
theorem isLineBreak_of_mem_sanitizeChar (h : d ∈ sanitizeChar c) :
    isLineBreak d = isLineBreak c := by
  rcases printable_or_eq_of_mem_sanitizeChar h with ⟨hcontrol, hprintable⟩ | ⟨-, rfl⟩
  · rw [isLineBreak_of_printable hprintable, isLineBreak_of_isControl hcontrol]
  · rfl

theorem sanitizeChar_ne_nil (c : Char) : sanitizeChar c ≠ [] := by
  rw [sanitizeChar_eq]
  split <;> exact List.cons_ne_nil _ _

theorem oneLine_sanitize : OneLine (sanitize t) ↔ OneLine t := by
  unfold OneLine
  rw [toList_sanitize, List.forall_mem_flatMap]
  refine forall₂_congr fun c _ => ⟨fun h => ?_, fun h d hd => ?_⟩
  · obtain ⟨d, hd⟩ := List.exists_mem_of_ne_nil _ (sanitizeChar_ne_nil c)
    rw [← isLineBreak_of_mem_sanitizeChar hd]
    exact h d hd
  · rw [isLineBreak_of_mem_sanitizeChar hd]
    exact h

/-- The texts of a group that a listing shows. -/
def shownTexts (g : Group) : List String :=
  g.displayName :: g.results.flatMap fun r => [r.scopeLabel, r.anchorUrl]

theorem oneLine_resultRow : OneLine (resultRow r) ↔ OneLine r.scopeLabel ∧ OneLine r.anchorUrl := by
  have hscope : OneLine (if sanitize r.scopeLabel = "" then "-" else sanitize r.scopeLabel) ↔
      OneLine r.scopeLabel := by
    rw [← oneLine_sanitize (t := r.scopeLabel)]
    split
    · rename_i hempty
      rw [hempty]
      decide
    · rfl
  have hindent : OneLine "    " := by decide
  have hspace : OneLine "  " := by decide
  simp only [resultRow, oneLine_append, hscope, oneLine_sanitize, hindent, hspace, true_and,
    and_true]

theorem oneLine_groupRows :
    (∀ row ∈ groupRows g, OneLine row) ↔ ∀ t ∈ shownTexts g, OneLine t := by
  rw [groupRows, shownTexts, List.forall_mem_cons, List.forall_mem_cons, List.forall_mem_map,
    List.forall_mem_flatMap]
  refine and_congr oneLine_sanitize (forall₂_congr fun r _ => ?_)
  rw [oneLine_resultRow, List.forall_mem_cons, List.forall_mem_singleton]

theorem harmless_groupRows (h : row ∈ groupRows g) : Json.Only Harmless row.toList := by
  rcases List.mem_cons.1 h with rfl | h
  · exact harmless_sanitize _
  · obtain ⟨r, _, rfl⟩ := List.mem_map.1 h
    have hplain : ∀ {s : List Char}, Json.Only Json.Printable s → Json.Only Harmless s :=
      fun h => h.mono fun _ => harmless_of_printable
    have hscope : Json.Only Harmless
        (if sanitize r.scopeLabel = "" then "-" else sanitize r.scopeLabel).toList := by
      split
      · exact hplain (Json.printable_of_all rfl)
      · exact harmless_sanitize _
    simp only [resultRow, String.toList_append]
    exact (((hplain (Json.printable_of_all rfl)).append hscope).append
      (hplain (Json.printable_of_all rfl))).append (harmless_sanitize _)

theorem length_groupRows (gs : List Group) :
    (gs.flatMap groupRows).length = gs.length + (gs.flatMap (·.results)).length := by
  induction gs with
  | nil => rfl
  | cons g gs ih =>
    rw [List.flatMap_cons, List.flatMap_cons, List.length_append, List.length_append, ih, groupRows,
      List.length_cons, List.length_cons, List.length_map]
    omega

/-! ### Indents -/

/-- The blanks in front of the row of a result. -/
def indent : List Char := [' ', ' ', ' ', ' ']

theorem indent_resultRow (r : Result) : indent <+: (resultRow r).toList := by
  simp only [resultRow, String.append_assoc]
  rw [String.toList_append]
  exact List.prefix_append indent _

theorem replicate_space_sanitizeChars (n : Nat) (cs : List Char) :
    List.replicate n ' ' <+: cs.flatMap sanitizeChar ↔ List.replicate n ' ' <+: cs := by
  induction n generalizing cs with
  | zero => simp
  | succ n ih =>
    cases cs with
    | nil => rfl
    | cons c cs =>
      rw [List.replicate_succ, List.flatMap_cons, sanitizeChar_eq, List.cons_prefix_cons]
      split
      · -- A control character is no blank, and neither is the backslash that stands for it.
        rename_i hcontrol
        rw [List.cons_append, List.cons_prefix_cons]
        refine iff_of_false (fun h => absurd h.1 (by decide)) fun h => ?_
        rw [← h.1] at hcontrol
        exact absurd hcontrol (by decide)
      · rw [List.singleton_append, List.cons_prefix_cons, ih]

/-- Sanitizing gives no text an indent, and takes none away. -/
theorem indent_sanitize : indent <+: (sanitize t).toList ↔ indent <+: t.toList := by
  rw [toList_sanitize]
  exact replicate_space_sanitizeChars 4 t.toList

/-! ### Listings -/

theorem intercalate_newLine {parts : List (List Char)} (h : parts ≠ []) :
    ['\n'].intercalate parts ++ ['\n'] = parts.flatMap (· ++ ['\n']) := by
  induction parts with
  | nil => exact absurd rfl h
  | cons part parts ih =>
    cases parts with
    | nil => simp
    | cons next parts =>
      rw [List.intercalate_cons_cons, List.append_assoc, ih (List.cons_ne_nil _ _)]
      simp only [List.flatMap_cons, List.append_assoc]

/-- A line feed stands behind each row. -/
theorem toList_listing (gs : List Group) :
    (listing gs).toList = (gs.flatMap groupRows).flatMap fun row => row.toList ++ ['\n'] := by
  have hfeed : "\n".toList = ['\n'] := rfl
  rw [listing]
  cases h : gs.flatMap groupRows with
  | nil => rfl
  | cons row rows =>
    rw [List.isEmpty_cons, if_neg Bool.false_ne_true, String.toList_append,
      String.toList_intercalate, hfeed, intercalate_newLine (by simp), List.flatMap_map]

theorem lines_flatMap (rows : List String) :
    lines (String.ofList (rows.flatMap fun row => row.toList ++ ['\n'])) =
      rows.flatMap lines ++ [""] := by
  induction rows with
  | nil => rfl
  | cons row rows ih =>
    rw [List.flatMap_cons, List.append_assoc, List.singleton_append, lines_append_cons rfl, ih,
      String.ofList_toList, List.flatMap_cons, List.append_assoc]

theorem lines_listing (gs : List Group) :
    lines (listing gs) = (gs.flatMap groupRows).flatMap lines ++ [""] := by
  rw [← lines_flatMap, ← toList_listing, String.ofList_toList]

theorem listing_eq_empty : listing gs = "" ↔ gs = [] := by
  rw [← String.toList_eq_nil_iff, toList_listing]
  cases gs with
  | nil => exact iff_of_true rfl rfl
  | cons g gs => simp [groupRows]

theorem getLast?_listing (h : gs ≠ []) : (listing gs).toList.getLast? = some '\n' := by
  have hrows : gs.flatMap groupRows ≠ [] := by
    obtain ⟨g, gs, rfl⟩ := List.exists_cons_of_ne_nil h
    exact List.cons_ne_nil _ _
  obtain ⟨rows, row, heq⟩ := (List.eq_nil_or_concat (gs.flatMap groupRows)).resolve_left hrows
  rw [toList_listing, heq]
  simp

theorem harmless_listing (gs : List Group) : Json.Only Harmless (listing gs).toList := by
  intro c hc
  rw [toList_listing] at hc
  obtain ⟨row, hrow, hc⟩ := List.mem_flatMap.1 hc
  obtain ⟨g, _, hrow⟩ := List.mem_flatMap.1 hrow
  rcases List.mem_append.1 hc with hc | hc
  · exact harmless_groupRows hrow c hc
  · exact .inl (List.mem_singleton.1 hc)

/-- The lines of a listing are its rows, each group's name and behind it one row for each result,
exactly if no text that is listed has a line feed or a carriage return. Behind the last row stands a
line feed, and nothing is written that a terminal acts on but line ends and tabs. Of the rows those
of results are indented, and those of names no further than the names themselves. -/
theorem listing_rows_are_lines (gs : List Group) :
    ((∀ g ∈ gs, ∀ t ∈ shownTexts g, OneLine t) ↔
      lines (listing gs) = (gs.flatMap fun g => sanitize g.displayName :: g.results.map resultRow) ++
        [""]) ∧
    ((∀ g ∈ gs, ∀ t ∈ shownTexts g, OneLine t) →
      (lines (listing gs)).length = gs.length + (gs.flatMap (·.results)).length + 1 ∧
      ∀ line ∈ lines (listing gs), ∀ c ∈ line.toList, c = '\t' ∨ 0x20 ≤ c.toNat ∧ ¬ HighControl c) ∧
    (listing gs = "" ↔ gs = []) ∧
    (gs ≠ [] → (listing gs).toList.getLast? = some '\n') ∧
    (∀ c ∈ (listing gs).toList, Harmless c) ∧
    ∀ g ∈ gs, (indent <+: (sanitize g.displayName).toList ↔ indent <+: g.displayName.toList) ∧
      ∀ r ∈ g.results, indent <+: (resultRow r).toList := by
  have hrows : lines (listing gs) = gs.flatMap groupRows ++ [""] ↔
      ∀ g ∈ gs, ∀ t ∈ shownTexts g, OneLine t := by
    rw [lines_listing, List.append_left_inj, flatMap_lines_iff, List.forall_mem_flatMap]
    exact forall₂_congr fun g _ => oneLine_groupRows
  refine ⟨hrows.symm, fun h => ⟨?_, ?_⟩, listing_eq_empty, getLast?_listing, harmless_listing gs,
    fun g _ => ⟨indent_sanitize, fun r _ => indent_resultRow r⟩⟩
  · rw [hrows.2 h, List.length_append, length_groupRows, List.length_singleton]
  · rw [hrows.2 h]
    intro line hline c hc
    rcases List.mem_append.1 hline with hline | hline
    · obtain ⟨g, hg, hline⟩ := List.mem_flatMap.1 hline
      have hbreak := oneLine_groupRows.2 (h g hg) line hline c hc
      rcases harmless_groupRows hline c hc with rfl | rfl | rfl | hplain
      · cases hbreak
      · cases hbreak
      · exact .inl rfl
      · exact .inr hplain
    · rw [List.mem_singleton.1 hline] at hc
      cases hc

/-- Names and places with what a terminal would act on, and a line separator. -/
def noisyGroups : List Group :=
  [⟨"ab", "\x1b[2Ja\tb", [⟨"ab", "\x1b[2Ja\tb", "a.html#\x7f", "", "a"⟩,
    ⟨"ab", "\x1b[2Ja\tb", "b.html", "A\u2028B", "a"⟩]⟩, ⟨"a", "    a", []⟩]

theorem listing_rows_are_lines_noisy :
    (∀ g ∈ noisyGroups, ∀ t ∈ shownTexts g, OneLine t) ∧ noisyGroups ≠ [] ∧
      lines (listing noisyGroups) =
        ["\\x1b[2Ja\tb", "    -  a.html#\\x7f", "    A\u2028B  b.html", "    a", ""] ∧
      (lines (listing noisyGroups)).length = 2 + 2 + 1 ∧
      (listing noisyGroups).toList.getLast? = some '\n' := by
  have hone : ∀ g ∈ noisyGroups, ∀ t ∈ shownTexts g, OneLine t := by decide
  have hne : noisyGroups ≠ [] := List.cons_ne_nil _ _
  obtain ⟨hrows, hlines, -, hlast, -⟩ := listing_rows_are_lines noisyGroups
  refine ⟨hone, hne, ?_, (hlines hone).1, hlast hne⟩
  rw [hrows.1 hone]
  decide

/-- A name with a line feed, and a scope with a carriage return. -/
def brokenGroups : List Group :=
  [⟨"ab", "a\nb", [⟨"ab", "a\nb", "a.html", "x\ry", "a"⟩]⟩]

/-- One group with one result fills four lines, none of which is its row, and the second line of the
result has no indent. -/
theorem line_breaks_split_rows :
    lines (listing brokenGroups) = ["a", "b", "    x", "y  a.html", ""] ∧
      (lines (listing brokenGroups)).length ≠
        brokenGroups.length + (brokenGroups.flatMap (·.results)).length + 1 ∧
      '\r' ∈ (listing brokenGroups).toList := by
  decide

end SymbolIndex.Terminal
