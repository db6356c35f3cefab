import SymbolIndex.Proofs.Except
import SymbolIndex.Proofs.Json.Reads

/-!
# Where a text cannot be read on

`Refused cs` says that reading a value from the text `cs` stops, whatever stands behind it;
`RefusedItems` and `RefusedMembers` say the same of the text behind an opening bracket. An array or
an object with a part that is refused, behind others that can be read, is refused itself.
-/

namespace SymbolIndex.Json

variable {cs ds ws w₁ w₂ w₃ tail whole : List Char} {v : Json}

/-! ### Strings -/

/-- Reading a string stops in a text, whatever stands behind it. -/
def RefusedString (cs : List Char) : Prop :=
  ∀ whole rest, ∃ e, stringUnits whole (cs ++ rest) = .error e

section

variable {r : List Nat × List Char}

theorem exists_of_stringUnits_codeEscape {n : Nat} (hn : n < 0x10000)
    (h : stringUnits whole (codeEscape n ++ tail) = .ok r) :
    ∃ r', stringUnits whole tail = .ok r' := by
  simp only [codeEscape, Text.hex, List.nil_append, List.cons_append] at h
  rw [stringUnits.eq_def] at h
  simp only [codeUnit?_hexDigit hn] at h
  split at h
  · obtain ⟨r', hr, -⟩ := bind_eq_ok.1 h
    exact ⟨r', hr⟩
  · cases h

theorem exists_of_stringUnits_simpleEscape {e c : Char} (he : e ≠ 'u')
    (hc : simpleEscape? e = some c) (h : stringUnits whole ('\\' :: e :: tail) = .ok r) :
    ∃ r', stringUnits whole tail = .ok r' := by
  rw [stringUnits] at h
  · simp only [hc] at h
    obtain ⟨r', hr, -⟩ := bind_eq_ok.1 h
    exact ⟨r', hr⟩
  · rintro a b c d r rfl; exact absurd rfl he
  · exact he

theorem exists_of_stringUnits_plain {c : Char} (hq : c ≠ '"') (hb : c ≠ '\\')
    (hc : ¬ c.toNat < 0x20) (h : stringUnits whole (c :: tail) = .ok r) :
    ∃ r', stringUnits whole tail = .ok r' := by
  rw [stringUnits] at h
  · rw [if_neg hc] at h
    obtain ⟨r', hr, -⟩ := bind_eq_ok.1 h
    exact ⟨r', hr⟩
  all_goals simp_all

/-- What stands behind a character of a string that can be read can be read too. -/
theorem exists_of_stringUnits_escapeChar (ascii : Bool) (c : Char)
    (h : stringUnits whole (escapeChar ascii c ++ tail) = .ok r) :
    ∃ r', stringUnits whole tail = .ok r' := by
  have hvalid := valid_toNat c
  have hescaped := escaped_escapeChar ascii c
  generalize escapeChar ascii c = text at hescaped h
  cases hescaped with
  | simple he hc _ => exact exists_of_stringUnits_simpleEscape he hc h
  | code hc _ => exact exists_of_stringUnits_codeEscape hc h
  | pair _ _ =>
    rw [List.append_assoc] at h
    obtain ⟨r', hr⟩ := exists_of_stringUnits_codeEscape (by omega) h
    exact exists_of_stringUnits_codeEscape (by omega) hr
  | plain hq hb hlow _ => exact exists_of_stringUnits_plain hq hb hlow h

end

theorem RefusedString.append (h : RefusedString cs) (ds : List Char) : RefusedString (cs ++ ds) := by
  intro whole rest
  rw [List.append_assoc]
  exact h whole (ds ++ rest)

theorem RefusedString.escapeChar (h : RefusedString cs) (ascii : Bool) (c : Char) :
    RefusedString (escapeChar ascii c ++ cs) := by
  intro whole rest
  rw [List.append_assoc]
  cases hr : stringUnits whole (Json.escapeChar ascii c ++ (cs ++ rest)) with
  | error e => exact ⟨e, rfl⟩
  | ok r =>
    obtain ⟨r', hr'⟩ := exists_of_stringUnits_escapeChar ascii c hr
    obtain ⟨e, he⟩ := h whole rest
    rw [he] at hr'
    cases hr'

/-- An escape that there is none of. -/
theorem refusedString_escape {e : Char} (he : e ≠ 'u') (hnone : simpleEscape? e = none)
    (cs : List Char) : RefusedString ('\\' :: e :: cs) := by
  intro whole rest
  rw [List.cons_append, List.cons_append, stringUnits]
  · simp only [hnone]
    exact ⟨_, rfl⟩
  · rintro a b c d r rfl; exact absurd rfl he
  · exact he

theorem RefusedString.string (h : RefusedString cs) (rest : List Char) :
    ∃ e, string (cs ++ rest) = .error e := by
  obtain ⟨e, he⟩ := h ('"' :: (cs ++ rest)) rest
  refine ⟨e, ?_⟩
  rw [Json.string, stringPoints, he]
  rfl

/-! ### Values -/

/-- Reading a value stops in a text. -/
structure Refused (cs : List Char) : Prop where
  starts : Starts cs
  stops : ∀ fuel rest, 2 * cs.length ≤ fuel → ∃ e, value fuel (cs ++ rest) = .error e

/-- Reading items stops in a text. -/
structure RefusedItems (cs : List Char) : Prop where
  starts : Starts cs
  stops : ∀ fuel rest, 2 * cs.length ≤ fuel → ∃ e, items fuel (cs ++ rest) = .error e

/-- Reading members stops in a text. -/
structure RefusedMembers (cs : List Char) : Prop where
  head : ∃ t, cs = '"' :: t
  stops : ∀ fuel rest, 2 * cs.length ≤ fuel → ∃ e, members fuel (cs ++ rest) = .error e

/-- Reading members stops in the first of them, whatever stands behind it. -/
def RefusedMember (cs : List Char) : Prop := ∀ tail, RefusedMembers (cs ++ tail)

theorem starts_cons {c : Char} (hc : c = '"' ∨ c = '[' ∨ c = '{') (cs : List Char) :
    Starts (c :: cs) := by
  refine ⟨c, cs, rfl, ?_⟩
  rcases hc with rfl | rfl | rfl <;> (rintro (h | h | h) <;> revert h <;> decide)

theorem RefusedString.refused (h : RefusedString cs) : Refused ('"' :: cs) := by
  refine ⟨starts_cons (by simp) cs, fun fuel rest hf => ?_⟩
  obtain ⟨n, rfl⟩ : ∃ n, fuel = n + 1 := ⟨fuel - 1, by simp at hf; omega⟩
  obtain ⟨e, he⟩ := h.string rest
  rw [List.cons_append, value_string, he]
  exact ⟨e, rfl⟩

theorem Refused.items (h : Refused cs) (hne : tail ≠ []) : RefusedItems (cs ++ tail) := by
  refine ⟨h.starts.append tail, fun fuel rest hf => ?_⟩
  have hlen := List.length_pos_iff.2 hne
  rw [List.length_append] at hf
  obtain ⟨n, rfl⟩ : ∃ n, fuel = n + 1 := ⟨fuel - 1, by omega⟩
  obtain ⟨e, he⟩ := h.stops n (tail ++ rest) (by omega)
  rw [List.append_assoc, Json.items, he]
  exact ⟨e, rfl⟩

theorem Reads.refusedItems (hv : Reads v cs) (h₁ : Blank w₁) (h₂ : Blank w₂)
    (h : RefusedItems ds) : RefusedItems (cs ++ (w₁ ++ ',' :: (w₂ ++ ds))) := by
  refine ⟨hv.starts.append _, fun fuel rest hf => ?_⟩
  simp only [List.length_append, List.length_cons] at hf
  obtain ⟨n, rfl⟩ : ∃ n, fuel = n + 1 := ⟨fuel - 1, by omega⟩
  obtain ⟨e, he⟩ := h.stops n rest (by omega)
  simp only [List.append_assoc, List.cons_append]
  rw [items_comma hv (by omega) h₁ h₂ (h.starts.append rest), he]
  exact ⟨e, rfl⟩

theorem RefusedItems.arr (hw : Blank ws) (h : RefusedItems ds) : Refused ('[' :: (ws ++ ds)) := by
  refine ⟨starts_cons (by simp) _, fun fuel rest hf => ?_⟩
  simp only [List.length_append, List.length_cons] at hf
  obtain ⟨n, rfl⟩ : ∃ n, fuel = n + 1 := ⟨fuel - 1, by omega⟩
  obtain ⟨e, he⟩ := h.stops n rest (by omega)
  rw [List.cons_append, List.append_assoc, value_array n hw (h.starts.append rest), he]
  exact ⟨e, rfl⟩

/-- A name that is refused. -/
theorem RefusedString.member (h : RefusedString cs) (ds : List Char) :
    RefusedMember ('"' :: cs ++ ds) := by
  refine fun tail => ⟨⟨_, rfl⟩, fun fuel rest hf => ?_⟩
  obtain ⟨n, rfl⟩ : ∃ n, fuel = n + 1 := ⟨fuel - 1, by simp at hf; omega⟩
  obtain ⟨e, he⟩ := h.string (ds ++ (tail ++ rest))
  rw [List.append_assoc, List.append_assoc, List.cons_append, Json.members, he]
  exact ⟨e, rfl⟩

/-- A member whose value is refused. -/
theorem Refused.member (ascii : Bool) (name : String) (h : Refused cs) (h₁ : Blank w₁) :
    RefusedMember (memberText ascii name w₁ cs) := by
  refine fun tail => ⟨⟨_, rfl⟩, fun fuel rest hf => ?_⟩
  simp only [memberText, List.length_append, List.length_cons] at hf
  obtain ⟨n, rfl⟩ : ∃ n, fuel = n + 1 := ⟨fuel - 1, by omega⟩
  obtain ⟨e, he⟩ := h.stops n (tail ++ rest) (by omega)
  have htext : memberText ascii name w₁ cs ++ tail ++ rest =
      memberText ascii name w₁ (cs ++ (tail ++ rest)) := by
    simp [memberText]
  rw [htext, members_colon ascii name n h₁ (h.starts.append _), he]
  exact ⟨e, rfl⟩

theorem Reads.refusedMembers (ascii : Bool) (name : String) (h₁ : Blank w₁) (hv : Reads v cs)
    (h₂ : Blank w₂) (h₃ : Blank w₃) (h : RefusedMembers ds) :
    RefusedMembers (memberText ascii name w₁ cs ++ (w₂ ++ ',' :: (w₃ ++ ds))) := by
  refine ⟨⟨_, rfl⟩, fun fuel rest hf => ?_⟩
  simp only [memberText, List.length_append, List.length_cons] at hf
  obtain ⟨n, rfl⟩ : ∃ n, fuel = n + 1 := ⟨fuel - 1, by omega⟩
  obtain ⟨e, he⟩ := h.stops n rest (by omega)
  obtain ⟨t, rfl⟩ := h.head
  have htext : memberText ascii name w₁ cs ++ (w₂ ++ ',' :: (w₃ ++ '"' :: t)) ++ rest =
      memberText ascii name w₁ (cs ++ (w₂ ++ ',' :: (w₃ ++ '"' :: (t ++ rest)))) := by
    simp [memberText]
  rw [htext, members_comma ascii name h₁ hv (by omega) h₂ h₃, ← List.cons_append, he]
  exact ⟨e, rfl⟩

theorem RefusedMembers.obj (hw : Blank ws) (h : RefusedMembers ds) :
    Refused ('{' :: (ws ++ ds)) := by
  refine ⟨starts_cons (by simp) _, fun fuel rest hf => ?_⟩
  simp only [List.length_append, List.length_cons] at hf
  obtain ⟨n, rfl⟩ : ∃ n, fuel = n + 1 := ⟨fuel - 1, by omega⟩
  obtain ⟨e, he⟩ := h.stops n rest (by omega)
  obtain ⟨t, rfl⟩ := h.head
  rw [List.cons_append, List.append_assoc, List.cons_append, value_object n hw,
    ← List.cons_append, he]
  exact ⟨e, rfl⟩

/-! ### Lists -/

section

variable {α : Type} {text : α → List Char} {as : List α}

theorem intercalate_cons_of_ne_nil {sep part : List Char} {parts : List (List Char)}
    (h : parts ≠ []) : sep.intercalate (part :: parts) = part ++ (sep ++ sep.intercalate parts) := by
  obtain ⟨next, parts, rfl⟩ := List.exists_cons_of_ne_nil h
  rw [List.intercalate_cons_cons, List.append_assoc]

/-- Items of which one is refused. -/
theorem refusedItems_intercalate (hw : Blank ws)
    (h : ∀ a ∈ as, (∃ v, Reads v (text a)) ∨ Refused (text a)) (hbad : ∃ a ∈ as, Refused (text a))
    (hne : tail ≠ []) : RefusedItems ((',' :: ws).intercalate (as.map text) ++ tail) := by
  induction as with
  | nil =>
    obtain ⟨a, ha, -⟩ := hbad
    cases ha
  | cons a as ih =>
    by_cases ha : Refused (text a)
    · cases as with
      | nil => simpa using ha.items hne
      | cons b as =>
        rw [List.map_cons, intercalate_cons_of_ne_nil (by simp), List.append_assoc]
        exact ha.items (by simp)
    · obtain ⟨v, hv⟩ := (h a List.mem_cons_self).resolve_right ha
      obtain ⟨b, hb, hrefused⟩ := hbad
      have hmem := (List.mem_cons.1 hb).resolve_left (by rintro rfl; exact ha hrefused)
      have hrest := ih (fun x hx => h x (List.mem_cons_of_mem _ hx)) ⟨b, hmem, hrefused⟩
      rw [List.map_cons, intercalate_cons_of_ne_nil (by simpa using List.ne_nil_of_mem hmem)]
      have hitems := hv.refusedItems blank_nil hw hrest
      simpa only [List.append_assoc, List.nil_append, List.cons_append] using hitems

/-- Members of which one is refused, while the others can be read. -/
theorem refusedMembers_intercalate {ascii : Bool} (hw : Blank ws) (h₁ : Blank w₁)
    (h : ∀ a ∈ as, (∃ name v cs, text a = memberText ascii name w₁ cs ∧ Reads v cs) ∨
      RefusedMember (text a))
    (hbad : ∃ a ∈ as, RefusedMember (text a)) (tail : List Char) :
    RefusedMembers ((',' :: ws).intercalate (as.map text) ++ tail) := by
  induction as with
  | nil =>
    obtain ⟨a, ha, -⟩ := hbad
    cases ha
  | cons a as ih =>
    by_cases ha : RefusedMember (text a)
    · cases as with
      | nil => simpa using ha tail
      | cons b as =>
        rw [List.map_cons, intercalate_cons_of_ne_nil (by simp), List.append_assoc]
        exact ha _
    · obtain ⟨name, v, cs, htext, hv⟩ := (h a List.mem_cons_self).resolve_right ha
      obtain ⟨b, hb, hrefused⟩ := hbad
      have hmem := (List.mem_cons.1 hb).resolve_left (by rintro rfl; exact ha hrefused)
      have hrest := ih (fun x hx => h x (List.mem_cons_of_mem _ hx)) ⟨b, hmem, hrefused⟩
      rw [List.map_cons, intercalate_cons_of_ne_nil (by simpa using List.ne_nil_of_mem hmem), htext]
      have hmembers := hv.refusedMembers ascii name h₁ blank_nil hw hrest
      simpa only [List.append_assoc, List.nil_append, List.cons_append] using hmembers

end

end SymbolIndex.Json
