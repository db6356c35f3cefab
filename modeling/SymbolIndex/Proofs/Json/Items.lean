import Mathlib.Data.List.Forall2
import SymbolIndex.Json.Reader
import SymbolIndex.Proofs.Except

/-!
# The text of items

The texts of the items of an array are those that the reader takes for the items
(`begins_of_read`), and the code points at the head of an item are those of the string there
(`toList_eq_headPoints`).
-/

namespace SymbolIndex.Json

open Text.Utf8

variable {s t rest : List Char} {v : Json} {vs : List Json} {n fuel : Nat}

/-! ### Values by their first character -/

/-- A value that is neither string, array nor object. -/
def IsScalar : Json → Prop
  | .str _ | .arr _ | .obj _ => False
  | _ => True

theorem isScalar_of_number? {negative : Bool} (h : number? negative s = some (.ok (v, rest))) :
    IsScalar v := by
  unfold number? at h
  obtain ⟨_, _, h⟩ := Option.bind_eq_some_iff.1 h
  dsimp only at h
  split at h
  · cases h
    trivial
  · split at h
    · split at h <;> cases h
      trivial
    · cases h
      trivial

theorem isScalar_of_scalar (h : scalar s = .ok (v, rest)) : IsScalar v := by
  have hnumber : ∀ {negative t whole}, (number? negative t).getD (stopAt .expectingValue whole) =
      .ok (v, rest) → IsScalar v := by
    intro negative t whole h
    cases hn : number? negative t with
    | none =>
      rw [hn] at h
      cases h
    | some r =>
      rw [hn] at h
      exact isScalar_of_number? (hn.trans (congrArg some h))
  unfold scalar at h
  split at h
  case h_7 => exact hnumber h
  case h_8 => exact hnumber h
  all_goals
    cases h
    trivial

/-- A value that was read: a string behind a quote, an empty array or one with items behind a
bracket, an object, or a scalar. -/
theorem value_cases (h : value (n + 1) s = .ok (v, rest)) :
    (∃ t text, s = '"' :: t ∧ string t = .ok (text, rest) ∧ v = .str text) ∨
    (∃ t u, s = '[' :: t ∧ skipSpace t = ']' :: u ∧ v = .arr []) ∨
    (∃ t vs, s = '[' :: t ∧ (∀ u, skipSpace t ≠ ']' :: u) ∧
      items n (skipSpace t) = .ok (vs, rest) ∧ v = .arr vs) ∨
    (∃ ms, v = .obj ms) ∨ IsScalar v := by
  rw [value.eq_def] at h
  dsimp only at h
  split at h
  · rename_i t
    obtain ⟨⟨text, behind⟩, htext, h⟩ := bind_eq_ok.1 h
    cases h
    exact .inl ⟨t, text, rfl, htext, rfl⟩
  · rename_i t
    split at h
    · rename_i u hclose
      cases h
      exact .inr (.inl ⟨t, _, rfl, hclose, rfl⟩)
    · rename_i hopen
      obtain ⟨⟨vs, behind⟩, hitems, h⟩ := bind_eq_ok.1 h
      cases h
      exact .inr (.inr (.inl ⟨t, vs, rfl, hopen, hitems, rfl⟩))
  · split at h
    · cases h
      exact .inr (.inr (.inr (.inl ⟨_, rfl⟩)))
    · obtain ⟨_, _, h⟩ := bind_eq_ok.1 h
      cases h
      exact .inr (.inr (.inr (.inl ⟨_, rfl⟩)))
  · exact .inr (.inr (.inr (.inr (isScalar_of_scalar h))))

/-- A string stands behind a quote. -/
theorem exists_of_value_str {text : String} (h : value n s = .ok (.str text, rest)) :
    ∃ t, s = '"' :: t ∧ string t = .ok (text, rest) := by
  cases n with
  | zero => cases h
  | succ n =>
    rcases value_cases h with ⟨t, text', hs, ht, hv⟩ | ⟨_, _, _, _, hv⟩ | ⟨_, _, _, _, _, hv⟩ |
      ⟨_, hv⟩ | hv
    · cases hv
      exact ⟨t, hs, ht⟩
    · cases hv
    · cases hv
    · cases hv
    · exact hv.elim

/-- An array stands behind a bracket, and it is empty or has items. -/
theorem exists_of_value_arr (h : value (n + 1) s = .ok (.arr vs, rest)) :
    ∃ t, s = '[' :: t ∧ ((∃ u, skipSpace t = ']' :: u) ∧ vs = [] ∨
      (∀ u, skipSpace t ≠ ']' :: u) ∧ items n (skipSpace t) = .ok (vs, rest)) := by
  rcases value_cases h with ⟨_, _, _, _, hv⟩ | ⟨t, u, hs, hclose, hv⟩ | ⟨t, _, hs, hopen, hitems, hv⟩ |
    ⟨_, hv⟩ | hv
  · cases hv
  · cases hv
    exact ⟨t, hs, .inl ⟨⟨u, hclose⟩, rfl⟩⟩
  · cases hv
    exact ⟨t, hs, .inr ⟨hopen, hitems⟩⟩
  · cases hv
  · exact hv.elim

/-! ### Items -/

/-- Items that were read: the first, and the others behind a comma, if there are any. -/
theorem items_cases (h : items (n + 1) s = .ok (vs, rest)) :
    ∃ v vs' behind, vs = v :: vs' ∧ value n s = .ok (v, behind) ∧
      ((∃ u, skipSpace behind = ']' :: u) ∧ vs' = [] ∨
        ∃ u, skipSpace behind = ',' :: u ∧ items n (skipSpace u) = .ok (vs', rest)) := by
  rw [items] at h
  obtain ⟨⟨v, behind⟩, hv, h⟩ := bind_eq_ok.1 h
  dsimp only at h
  split at h
  · rename_i hclose
    cases h
    exact ⟨v, [], behind, rfl, hv, .inl ⟨⟨_, hclose⟩, rfl⟩⟩
  · rename_i u hcomma
    obtain ⟨⟨vs', rest'⟩, hitems, h⟩ := bind_eq_ok.1 h
    cases h
    exact ⟨v, vs', behind, rfl, hv, .inr ⟨u, hcomma, hitems⟩⟩
  · cases h

/-- A text goes on with a value. -/
def Begins (t : List Char) (v : Json) : Prop := ∃ fuel rest, value fuel t = .ok (v, rest)

theorem begins_of_items (h : items fuel s = .ok (vs, rest)) :
    List.Forall₂ Begins (itemTexts fuel s) vs := by
  induction fuel generalizing s vs rest with
  | zero => cases h
  | succ fuel ih =>
    obtain ⟨v, vs, behind, rfl, hv, ⟨⟨u, hclose⟩, rfl⟩ | ⟨u, hcomma, hitems⟩⟩ := items_cases h
    · simp only [itemTexts, hv, hclose]
      exact .cons ⟨fuel, behind, hv⟩ .nil
    · simp only [itemTexts, hv, hcomma]
      exact .cons ⟨fuel, behind, hv⟩ (ih hitems)

/-- The texts from the items of an array on, for a document that is read as an array. -/
theorem begins_of_read (h : read s = .ok (.arr vs)) : List.Forall₂ Begins (arrayTexts s) vs := by
  unfold read at h
  split at h
  · cases h
  obtain ⟨⟨v, behind⟩, hv, h⟩ := bind_eq_ok.1 (mapError_eq_ok.1 h)
  dsimp only at h
  split at h
  · cases h
    obtain ⟨t, hs, ⟨⟨u, hclose⟩, rfl⟩ | ⟨hopen, hitems⟩⟩ := exists_of_value_arr hv
    · simp only [arrayTexts, hs, hclose]
      exact .nil
    · simp only [arrayTexts, hs]
      exact begins_of_items hitems
  · cases h

/-- The string at the head of an array is the text of its code points. -/
theorem toList_eq_headPoints {text : String} (h : Begins t (.arr (.str text :: vs))) :
    text.toList = (headPoints t).map CodePoint.toChar := by
  obtain ⟨fuel, rest, h⟩ := h
  cases fuel with
  | zero => cases h
  | succ fuel =>
    obtain ⟨t, rfl, ⟨_, hnil⟩ | ⟨_, hitems⟩⟩ := exists_of_value_arr h
    · cases hnil
    cases fuel with
    | zero => cases hitems
    | succ fuel =>
      obtain ⟨v, _, _, hvs, hv, _⟩ := items_cases hitems
      obtain ⟨rfl, -⟩ := List.cons.inj hvs
      obtain ⟨u, hu, hstring⟩ := exists_of_value_str hv
      obtain ⟨⟨points, behind'⟩, hpoints, hstring⟩ := bind_eq_ok.1 hstring
      cases hstring
      simp only [headPoints, hu, hpoints, String.toList_ofList]

/-- A string without U+FFFD had no surrogate in its document. -/
theorem surrogate_not_mem_headPoints {text : String} {code : Nat}
    (h : Begins t (.arr (.str text :: vs))) (hplain : '\uFFFD' ∉ text.toList) :
    CodePoint.surrogate code ∉ headPoints t := by
  intro hmem
  rw [toList_eq_headPoints h] at hplain
  exact hplain (List.mem_map_of_mem (f := CodePoint.toChar) hmem)

end SymbolIndex.Json
