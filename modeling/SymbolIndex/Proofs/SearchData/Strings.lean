import SymbolIndex.Proofs.Json.RoundTrip
import SymbolIndex.SearchData.Strings

/-!
# What single-quoted text stands for

`Spells t v` says that a string with the text `t` between its quotes has the value `v`.
`Requotes t u` says that `requote` turns the text `t` into `u` and then goes on between strings,
and `Means t v` that the reader takes the outcome for the value `v`. There is one lemma for each
way to put texts together.
-/

namespace SymbolIndex.SearchData

open Json

/-! ### Strings -/

/-- The text of a string between its quotes, and the value of the string. -/
inductive Spells : List Char → List Char → Prop where
  | nil : Spells [] []
  | plain {c : Char} {t value : List Char} (hq : c ≠ '\'') (hb : c ≠ '\\') (h : Spells t value) :
    Spells (c :: t) (c :: value)
  | pair (c : Char) {t value : List Char} (h : Spells t value) :
    Spells ('\\' :: c :: t) (c :: value)

variable {t u w t' u' value : List Char} {v : Json}

theorem spells_quoteChar (c : Char) (h : Spells t value) :
    Spells (quoteChar c ++ t) (c :: value) := by
  unfold quoteChar
  split
  · exact .pair c h
  · rename_i hc
    exact .plain (fun hq => hc (.inl hq)) (fun hb => hc (.inr hb)) h

theorem spells_flatMap_quoteChar (value : List Char) : Spells (value.flatMap quoteChar) value := by
  induction value with
  | nil => exact .nil
  | cons c value ih =>
    rw [List.flatMap_cons]
    exact spells_quoteChar c ih

theorem requoteFrom_plain {c : Char} (hq : c ≠ '\'') (hb : c ≠ '\\') (b : Begun)
    (rest : List Char) : requoteFrom (some b) (c :: rest) =
      requoteFrom (some ⟨c :: b.value, c :: b.text⟩) rest := by
  rw [requoteFrom, if_neg hq]
  · exact fun h _ => hb h
  · simp [hb]

/-- A string begun is read up to its end. -/
theorem Spells.requoteFrom (h : Spells t value) (b : Begun) (rest : List Char) :
    requoteFrom (some b) (t ++ '\'' :: rest) =
      stringText true (b.value.reverse ++ value) ++ requoteFrom none rest := by
  induction h generalizing b with
  | nil =>
    rw [List.nil_append, requoteFrom.eq_def]
    simp
  | plain hq hb _ ih =>
    rw [List.cons_append, requoteFrom_plain hq hb, ih]
    simp
  | pair c _ ih =>
    rw [List.cons_append, List.cons_append, SearchData.requoteFrom, ih]
    simp

/-! ### Texts -/

/-- Between strings, the text becomes the other one. -/
def Requotes (t u : List Char) : Prop :=
  ∀ rest, requoteFrom none (t ++ rest) = u ++ requoteFrom none rest

theorem Requotes.requote (h : Requotes t u) : requote t = u := by
  have h := h []
  rwa [List.append_nil, show requoteFrom none [] = [] from rfl, List.append_nil] at h

theorem Requotes.nil : Requotes [] [] := fun _ => rfl

theorem Requotes.append (h : Requotes t u) (h' : Requotes t' u') :
    Requotes (t ++ t') (u ++ u') := by
  intro rest
  rw [List.append_assoc, h, h', List.append_assoc]

/-- Text without a quote is left alone. -/
theorem Requotes.gap (h : ∀ c ∈ t, c ≠ '\'') : Requotes t t := by
  intro rest
  induction t with
  | nil => rfl
  | cons c t ih =>
    rw [List.cons_append, requoteFrom, if_neg (h c List.mem_cons_self),
      ih fun d hd => h d (List.mem_cons_of_mem _ hd), List.cons_append]

theorem Requotes.string (h : Spells t value) :
    Requotes ('\'' :: t ++ ['\'']) (stringText true value) := by
  intro rest
  have hs := h.requoteFrom ⟨[], []⟩ rest
  rw [List.cons_append, List.cons_append, List.append_assoc, requoteFrom, if_pos rfl]
  exact hs

/-! ### Values -/

/-- The text of a value, its strings in single quotes. -/
def Means (t : List Char) (v : Json) : Prop := ∃ u, Requotes t u ∧ Reads v u

theorem Means.string (h : Spells t value) :
    Means ('\'' :: t ++ ['\'']) (.str (String.ofList value)) := by
  refine ⟨_, .string h, ?_⟩
  have := Reads.str true (String.ofList value)
  rwa [String.toList_ofList] at this

theorem Means.quote (value : List Char) : Means (quote value) (.str (String.ofList value)) :=
  .string (spells_flatMap_quoteChar value)

/-- Text without strings that the reader takes for a value. -/
theorem Means.plain (h : ∀ c ∈ t, c ≠ '\'') (hv : Reads v t) : Means t v := ⟨t, .gap h, hv⟩

theorem ne_quote_of_blank (h : Blank w) : ∀ c ∈ w, c ≠ '\'' := by
  rintro c hc rfl
  exact absurd (h '\'' hc) (by decide)

/-- The items of an array, up to its closing bracket. -/
theorem exists_readsItems {ts : List (List Char)} {vs : List Json} {w₁ w₂ : List Char}
    (h : List.Forall₂ Means ts vs) (hne : ts ≠ []) (h₁ : Blank w₁) (h₂ : Blank w₂) :
    ∃ u, Requotes ((',' :: w₁).intercalate ts ++ (w₂ ++ [']'])) u ∧ ReadsItems vs u := by
  induction h with
  | nil => exact absurd rfl hne
  | @cons t v ts vs htv hs ih =>
    obtain ⟨u, hu, hread⟩ := htv
    have hend : Requotes (w₂ ++ [']']) (w₂ ++ [']']) :=
      .append (.gap (ne_quote_of_blank h₂)) (.gap (by simp))
    cases hs with
    | nil =>
      refine ⟨u ++ (w₂ ++ [']']), ?_, .single hread h₂⟩
      simpa using hu.append hend
    | @cons t' v' ts vs ht' hs =>
      obtain ⟨us, hus, hitems⟩ := ih (by simp)
      refine ⟨u ++ ([] ++ ',' :: (w₁ ++ us)), ?_, .cons hread blank_nil h₁ hitems⟩
      have hsep : Requotes (',' :: w₁) (',' :: w₁) :=
        .gap fun c hc => (List.mem_cons.1 hc).elim (fun h => h ▸ by decide) (ne_quote_of_blank h₁ c)
      have := hu.append (hsep.append hus)
      simpa [List.intercalate] using this

/-- An array with blanks behind its opening bracket, behind its commas and at its end. -/
theorem Means.array {ts : List (List Char)} {vs : List Json} {w₀ w₁ w₂ : List Char}
    (h : List.Forall₂ Means ts vs) (hne : ts ≠ []) (h₀ : Blank w₀) (h₁ : Blank w₁) (h₂ : Blank w₂) :
    Means ('[' :: (w₀ ++ ((',' :: w₁).intercalate ts ++ (w₂ ++ [']'])))) (.arr vs) := by
  obtain ⟨u, hu, hitems⟩ := exists_readsItems h hne h₁ h₂
  refine ⟨'[' :: (w₀ ++ u), ?_, .arr h₀ hitems⟩
  have hopen : Requotes ['['] ['['] := .gap (by simp)
  exact hopen.append ((Requotes.gap (ne_quote_of_blank h₀)).append hu)

theorem Means.read (h : Means t v) : Json.read (requote t) = .ok v := by
  obtain ⟨u, hu, hv⟩ := h
  have := hv.read blank_nil
  rwa [List.append_nil, ← hu.requote] at this

end SymbolIndex.SearchData
