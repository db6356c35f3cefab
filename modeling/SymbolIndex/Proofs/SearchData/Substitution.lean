import SymbolIndex.Proofs.SearchData.Strings
import SymbolIndex.SearchData.Basic

/-!
# Strings are replaced from left to right

`Substituted t u` says without the scanner what it is to replace the strings of a text: at each
place, from left to right, a string that begins there is replaced as a whole, and a character at
which no string begins stays. Where a string begins it has one end only (`Spells.append_quote_inj`),
so one text is got from each, and it is the one that the scanner gives (`requote_eq_iff`).
-/

namespace SymbolIndex.SearchData

open Json

variable {s t t' u value value' rest rest' gap : List Char} {c : Char}

/-! ### Where a string ends -/

/-- Behind an opening quote, a string comes to its end. -/
def Closes (s : List Char) : Prop := ∃ t value rest, Spells t value ∧ s = t ++ '\'' :: rest

/-- Behind an opening quote, every quote is the second character of a pair. -/
inductive Unclosed : List Char → Prop where
  | nil : Unclosed []
  | backslash : Unclosed ['\\']
  | plain {c : Char} {s : List Char} (hq : c ≠ '\'') (hb : c ≠ '\\') (h : Unclosed s) :
    Unclosed (c :: s)
  | pair (c : Char) {s : List Char} (h : Unclosed s) : Unclosed ('\\' :: c :: s)

theorem closes_or_unclosed (s : List Char) : Closes s ∨ Unclosed s := by
  match s with
  | [] => exact .inr .nil
  | c :: s =>
    by_cases hq : c = '\''
    · exact .inl ⟨[], [], s, .nil, hq ▸ rfl⟩
    by_cases hb : c = '\\'
    · subst hb
      match s with
      | [] => exact .inr .backslash
      | d :: s =>
        rcases closes_or_unclosed s with ⟨t, value, rest, ht, rfl⟩ | h
        · exact .inl ⟨_, _, rest, .pair d ht, rfl⟩
        · exact .inr (.pair d h)
    · rcases closes_or_unclosed s with ⟨t, value, rest, ht, rfl⟩ | h
      · exact .inl ⟨_, _, rest, .plain hq hb ht, rfl⟩
      · exact .inr (.plain hq hb h)

theorem Unclosed.not_closes (h : Unclosed s) : ¬ Closes s := by
  rintro ⟨t, value, rest, ht, heq⟩
  induction h generalizing t value with
  | nil => simp at heq
  | backslash =>
    cases ht with
    | nil => simp at heq
    | plain _ hb _ => exact hb (List.cons.inj heq).1.symm
    | pair c _ => simp at heq
  | plain hq hb _ ih =>
    cases ht with
    | nil => exact hq (List.cons.inj heq).1
    | plain _ _ ht => exact ih _ _ ht (List.cons.inj heq).2
    | pair c _ => exact hb (List.cons.inj heq).1
  | pair c _ ih =>
    cases ht with
    | nil => simp at heq
    | plain _ hb _ => exact hb (List.cons.inj heq).1.symm
    | pair d ht => exact ih _ _ ht (List.cons.inj (List.cons.inj heq).2).2

/-- A string ends at one place and has one value. -/
theorem Spells.append_quote_inj (h : Spells t value) (h' : Spells t' value')
    (heq : t ++ '\'' :: rest = t' ++ '\'' :: rest') : t = t' ∧ value = value' ∧ rest = rest' := by
  induction h generalizing t' value' with
  | nil =>
    cases h' with
    | nil =>
      cases heq
      exact ⟨rfl, rfl, rfl⟩
    | plain hq _ _ => exact absurd (List.cons.inj heq).1.symm hq
    | pair c _ => simp at heq
  | plain hq hb _ ih =>
    cases h' with
    | nil => exact absurd (List.cons.inj heq).1 hq
    | plain _ _ h' =>
      obtain ⟨rfl, htail⟩ := List.cons.inj heq
      obtain ⟨rfl, rfl, rfl⟩ := ih h' htail
      exact ⟨rfl, rfl, rfl⟩
    | pair c _ => exact absurd (List.cons.inj heq).1 hb
  | pair c _ ih =>
    cases h' with
    | nil => simp at heq
    | plain _ hb _ => exact absurd (List.cons.inj heq).1.symm hb
    | pair d h' =>
      obtain ⟨rfl, htail⟩ := List.cons.inj (List.cons.inj heq).2
      obtain ⟨rfl, rfl, rfl⟩ := ih h' htail
      exact ⟨rfl, rfl, rfl⟩

/-! ### Replacing -/

/-- The second text is the first with its strings replaced. -/
inductive Substituted : List Char → List Char → Prop where
  | nil : Substituted [] []
  | string {t value rest u : List Char} (ht : Spells t value) (h : Substituted rest u) :
    Substituted ('\'' :: (t ++ '\'' :: rest)) (stringText true value ++ u)
  | skip {c : Char} {rest u : List Char} (hno : c = '\'' → ¬ Closes rest)
    (h : Substituted rest u) : Substituted (c :: rest) (c :: u)

theorem requoteFrom_string (h : Spells t value) (rest : List Char) :
    requoteFrom none ('\'' :: (t ++ '\'' :: rest)) =
      stringText true value ++ requoteFrom none rest := by
  have h := Requotes.string h rest
  rwa [List.append_assoc] at h

theorem requoteFrom_cons (hc : c ≠ '\'') (rest : List Char) :
    requoteFrom none (c :: rest) = c :: requoteFrom none rest := by
  rw [requoteFrom, if_neg hc]

/-- A string without an end is left alone. -/
theorem Unclosed.requoteFrom_some (h : Unclosed s) (b : Begun) :
    requoteFrom (some b) s = '\'' :: (b.text.reverse ++ s) := by
  induction h generalizing b with
  | nil => simp [requoteFrom]
  | backslash => simp [requoteFrom]
  | plain hq hb _ ih =>
    rw [requoteFrom_plain hq hb, ih]
    simp
  | pair c _ ih =>
    rw [requoteFrom, ih]
    simp

theorem Unclosed.requoteFrom_quote (h : Unclosed s) :
    requoteFrom none ('\'' :: s) = '\'' :: s := by
  rw [requoteFrom, if_pos rfl, h.requoteFrom_some]
  rfl

/-- None of the quotes in it begins a string either: behind each of them the scanner is between the
same pairs as before. -/
theorem Unclosed.requoteFrom_none (h : Unclosed s) : requoteFrom none s = s := by
  induction h with
  | nil => rfl
  | backslash => rfl
  | plain hq _ _ ih => rw [requoteFrom_cons hq, ih]
  | @pair c s h ih =>
    rw [requoteFrom_cons (by decide)]
    by_cases hc : c = '\''
    · rw [hc, h.requoteFrom_quote]
    · rw [requoteFrom_cons hc, ih]

theorem Substituted.requoteFrom_eq (h : Substituted s u) : requoteFrom none s = u := by
  induction h with
  | nil => rfl
  | string ht _ ih => rw [requoteFrom_string ht, ih]
  | @skip c rest u hno _ ih =>
    by_cases hc : c = '\''
    · subst hc
      have hopen := (closes_or_unclosed rest).resolve_left (hno rfl)
      rw [hopen.requoteFrom_quote, ← ih, hopen.requoteFrom_none]
    · rw [requoteFrom_cons hc, ih]

theorem substituted_requoteFrom (s : List Char) : Substituted s (requoteFrom none s) := by
  match s with
  | [] => exact .nil
  | c :: rest =>
    by_cases hc : c = '\''
    · subst hc
      rcases closes_or_unclosed rest with ⟨t, value, behind, ht, heq⟩ | hopen
      · have hshorter : behind.length < rest.length := by
          rw [heq, List.length_append, List.length_cons]
          omega
        have hbehind := substituted_requoteFrom behind
        rw [heq, requoteFrom_string ht]
        exact .string ht hbehind
      · have hrest := substituted_requoteFrom rest
        rw [hopen.requoteFrom_none] at hrest
        rw [hopen.requoteFrom_quote]
        exact .skip (fun _ => hopen.not_closes) hrest
    · rw [requoteFrom_cons hc]
      exact .skip (fun hq => absurd hq hc) (substituted_requoteFrom rest)
termination_by s.length
decreasing_by all_goals (simp only [List.length_cons]; omega)

theorem requote_eq_iff : requote s = u ↔ Substituted s u :=
  ⟨fun h => h ▸ substituted_requoteFrom s, Substituted.requoteFrom_eq⟩

/-! ### Texts of strings and gaps -/

/-- A string and the text behind it, up to the next string. -/
structure Segment where
  text : List Char
  value : List Char
  gap : List Char
  deriving DecidableEq

namespace Segment

/-- The text stands for the value, and no string begins in the gap. -/
structure Fits (p : Segment) : Prop where
  spells : Spells p.text p.value
  gap : ∀ c ∈ p.gap, c ≠ '\''

def source (p : Segment) : List Char := '\'' :: p.text ++ ['\''] ++ p.gap

def target (p : Segment) : List Char := stringText true p.value ++ p.gap

theorem Fits.requotes {p : Segment} (h : p.Fits) : Requotes p.source p.target :=
  (Requotes.string h.spells).append (.gap h.gap)

end Segment

theorem requotes_segments {ps : List Segment} (h : ∀ p ∈ ps, p.Fits) :
    Requotes (ps.flatMap Segment.source) (ps.flatMap Segment.target) := by
  induction ps with
  | nil => exact .nil
  | cons p ps ih =>
    obtain ⟨hp, hps⟩ := List.forall_mem_cons.1 h
    rw [List.flatMap_cons, List.flatMap_cons]
    exact hp.requotes.append (ih hps)

theorem read_stringText (value : List Char) :
    Json.read (stringText true value) = .ok (.str (String.ofList value)) := by
  have h := (Reads.str true (String.ofList value)).read blank_nil
  rwa [String.toList_ofList, List.append_nil] at h

theorem exists_spells_quote (value : List Char) :
    ∃ t, quote value = '\'' :: t ++ ['\''] ∧ Spells t value :=
  ⟨_, rfl, spells_flatMap_quoteChar value⟩

/-- The strings of a text are replaced from left to right, each where it ends. So in a text of
strings and gaps between them, each string becomes a JSON string of its value, the second characters
of pairs for the pairs, and the gaps stay. A value that was quoted is the value of its string, with
the references that it was given if it is shown. -/
theorem requote_replaces_strings :
    (∀ s u, requote s = u ↔ Substituted s u) ∧
    (∀ t value rest t' value' rest', Spells t value → Spells t' value' →
      t ++ '\'' :: rest = t' ++ '\'' :: rest' → t = t' ∧ value = value' ∧ rest = rest') ∧
    (∀ (gap : List Char) (ps : List Segment), (∀ c ∈ gap, c ≠ '\'') → (∀ p ∈ ps, p.Fits) →
      requote (gap ++ ps.flatMap Segment.source) = gap ++ ps.flatMap Segment.target) ∧
    (∀ value, Json.read (stringText true value) = .ok (.str (String.ofList value))) ∧
    (∀ value, ∃ t, quote value = '\'' :: t ++ ['\''] ∧ Spells t value) ∧
    ∀ text, ∃ t, quoteText text = '\'' :: t ++ ['\''] ∧ Spells t (CharRef.escape text.toList) :=
  ⟨fun _ _ => requote_eq_iff, fun _ _ _ _ _ _ h h' => h.append_quote_inj h',
    fun _ _ hgap hps => ((Requotes.gap hgap).append (requotes_segments hps)).requote,
    read_stringText, exists_spells_quote, fun _ => exists_spells_quote _⟩

/-- Strings that touch: one with a quote and backslashes in front of its end, one with a line feed, a
bracket and a quote of the other kind. -/
def touchingSegments : List Segment :=
  [⟨['a', '\\', '\'', '\\', '\\'], ['a', '\'', '\\'], []⟩,
    ⟨['\\', '\n', ']', '"'], ['\n', ']', '"'], [',', '1', ']']⟩]

theorem requote_replaces_strings_touching :
    (∀ c ∈ ['['], c ≠ '\'') ∧ (∀ p ∈ touchingSegments, p.Fits) ∧
      requote "['a\\'\\\\''\\\n]\"',1]".toList = "[\"a'\\\\\"\"\\n]\\\"\",1]".toList ∧
      Json.read (stringText true ['a', '\'', '\\']) = .ok (.str "a'\\") := by
  have hgap : ∀ c ∈ ['['], c ≠ '\'' := by simp
  have hfits : ∀ p ∈ touchingSegments, p.Fits := by
    intro p hp
    rcases List.mem_pair.1 hp with rfl | rfl
    · exact ⟨.plain (by decide) (by decide) (.pair _ (.pair _ .nil)), by simp⟩
    · exact ⟨.pair _ (.plain (by decide) (by decide) (.plain (by decide) (by decide) .nil)),
        by simp⟩
  obtain ⟨-, -, hsegments, hread, -⟩ := requote_replaces_strings
  refine ⟨hgap, hfits, ?_, hread _⟩
  have h := hsegments ['['] touchingSegments hgap hfits
  exact h

end SymbolIndex.SearchData
