import SymbolIndex.CharRef.Basic

/-!
# Escaped text is read back

A name and its semicolon are read as one reference (`reference?_name`), so unescaping undoes
`escape` character by character.
-/

namespace SymbolIndex.CharRef

variable {c : Char} {name image s t : List Char}

/-! ### One reference -/

theorem takeWhile_isNameChar (h : ∀ c ∈ name, isNameChar c = true) (rest : List Char) :
    (name ++ ';' :: rest).takeWhile isNameChar = name := by
  rw [List.takeWhile_append_of_pos h, List.takeWhile_cons_of_neg (by decide), List.append_nil]

theorem take_append_semicolon {n : Nat} (hlen : name.length < n) (rest : List Char) :
    (name ++ ';' :: rest).take n = name ++ ';' :: rest.take (n - name.length - 1) := by
  obtain ⟨k, hk⟩ : ∃ k, n - name.length = k + 1 := ⟨n - name.length - 1, by omega⟩
  rw [List.take_append, List.take_of_length_le (by omega), hk, List.take_succ_cons,
    Nat.add_sub_cancel]

/-- A name with its semicolon, as long as it fits in the characters that are looked at. -/
theorem reference?_name (hname : ∀ c ∈ name, isNameChar c = true) (hne : name ≠ [])
    (hlen : name.length < 32) (rest : List Char) :
    reference? (name ++ ';' :: rest) =
      some (name.length + 1, .ok (namedText (name ++ [';']))) := by
  have hrun : ((name ++ ';' :: rest).take 32).takeWhile isNameChar = name := by
    rw [take_append_semicolon hlen, takeWhile_isNameChar hname]
  have hsemicolon : semicolon (name ++ ';' :: rest) name.length = 1 := by
    rw [semicolon, List.getElem?_append_right (Nat.le_refl _), Nat.sub_self]
    rfl
  have htake : (name ++ ';' :: rest).take (name.length + 1) = name ++ [';'] := by
    rw [take_append_semicolon (by omega), Nat.add_sub_cancel_left]
    rfl
  unfold reference?
  split
  · rename_i body heq
    obtain ⟨c, t, rfl⟩ := List.exists_cons_of_ne_nil hne
    cases heq
    exact absurd (hname '#' List.mem_cons_self) (by decide)
  · simp only [hrun, hsemicolon, htake, List.isEmpty_iff, if_neg hne]

theorem namedText_of_named? (h : named? name = some image) : namedText name = image := by
  rw [namedText, h]

/-! ### Texts -/

theorem unescape_cons_of_ne (hc : c ≠ '&') (h : unescape s = .ok t) :
    unescape (c :: s) = .ok (c :: t) := by
  rw [unescape, if_neg hc, h]
  rfl

theorem unescape_reference (name : List Char) (hname : ∀ c ∈ name, isNameChar c = true)
    (hne : name ≠ []) (hlen : name.length < 32) (himage : named? (name ++ [';']) = some image)
    (h : unescape s = .ok t) : unescape ('&' :: (name ++ ';' :: s)) = .ok (image ++ t) := by
  have hdrop : (name ++ ';' :: s).drop (name.length + 1) = s := by
    rw [List.drop_append, List.drop_of_length_le (by omega), Nat.add_sub_cancel_left]
    rfl
  rw [unescape, if_pos rfl, reference?_name hname hne hlen s, namedText_of_named? himage]
  simp only [hdrop, h]
  rfl

theorem unescape_escapeChar (c : Char) (h : unescape s = .ok t) :
    unescape (escapeChar c ++ s) = .ok (c :: t) := by
  unfold escapeChar
  split
  · subst_vars
    exact unescape_reference ['a', 'm', 'p'] (List.all_eq_true.1 rfl) (by decide) (by decide) rfl h
  split
  · subst_vars
    exact unescape_reference ['l', 't'] (List.all_eq_true.1 rfl) (by decide) (by decide) rfl h
  split
  · subst_vars
    exact unescape_reference ['g', 't'] (List.all_eq_true.1 rfl) (by decide) (by decide) rfl h
  · exact unescape_cons_of_ne ‹_› h

theorem unescape_escape (s : List Char) : unescape (escape s) = .ok s := by
  induction s with
  | nil => rw [escape, List.flatMap_nil, unescape]
  | cons c s ih =>
    rw [escape, List.flatMap_cons]
    exact unescape_escapeChar c ih

/-- Text without the three characters is not changed. -/
theorem escape_of_forall (h : ∀ c ∈ s, c ≠ '&' ∧ c ≠ '<' ∧ c ≠ '>') : escape s = s := by
  induction s with
  | nil => rfl
  | cons c s ih =>
    obtain ⟨hamp, hlt, hgt⟩ := h c List.mem_cons_self
    rw [escape, List.flatMap_cons, ← escape, ih fun d hd => h d (List.mem_cons_of_mem _ hd),
      escapeChar, if_neg hamp, if_neg hlt, if_neg hgt]
    rfl

end SymbolIndex.CharRef
