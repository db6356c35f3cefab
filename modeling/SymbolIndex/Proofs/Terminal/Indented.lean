import SymbolIndex.Proofs.Json.Indented
import SymbolIndex.Proofs.Json.Stops
import SymbolIndex.Proofs.Terminal.Sanitize

/-!
# Sanitized documents

JSON text writes control characters below 0x20 as escapes, but not DEL and those behind it. So
sanitizing the indented text of a value changes nothing unless a string of it has one of these
(`sanitizeChars_pretty`), and where one has, it puts an escape into the string that JSON does not
know, and the text cannot be read any more (`refused_sanitizeChars`).
-/

namespace SymbolIndex.Terminal

open Json

variable {v : Json}

/-! ### Parts of a text -/

theorem sanitizeChars_intercalate {sep : List Char} (hs : Only Harmless sep)
    (parts : List (List Char)) : sanitizeChars (sep.intercalate parts) =
      sep.intercalate (parts.map sanitizeChars) := by
  induction parts with
  | nil => rfl
  | cons part parts ih =>
    cases parts with
    | nil => simp
    | cons next parts =>
      rw [List.map_cons, List.map_cons, List.intercalate_cons_cons, List.intercalate_cons_cons,
        sanitizeChars_append, sanitizeChars_append, sanitizeChars_of_harmless hs, ih, List.map_cons]

theorem harmless_newLine (level : Nat) : Only Harmless (newLine level) :=
  only_newLine (fun _ => harmless_of_printable) (.inl rfl) level

theorem sanitizeChars_block {opening closing : Char} (ho : Printable opening)
    (hc : Printable closing) (level : Nat) (parts : List (List Char)) :
    sanitizeChars (block opening closing level parts) =
      block opening closing level (parts.map sanitizeChars) := by
  have hline : ∀ cs, sanitizeChars (newLine (level + 1) ++ cs) =
      newLine (level + 1) ++ sanitizeChars cs := by
    intro cs
    rw [sanitizeChars_append, sanitizeChars_of_harmless (harmless_newLine _)]
  have hseparator : Only Harmless (',' :: newLine (level + 1)) :=
    .cons (harmless_of_printable (by decide)) (harmless_newLine _)
  have hend : Only Harmless (newLine level ++ [closing]) :=
    (harmless_newLine _).append (.cons (harmless_of_printable hc) only_nil)
  cases parts with
  | nil =>
    exact sanitizeChars_of_harmless
      (.cons (harmless_of_printable ho) (.cons (harmless_of_printable hc) only_nil))
  | cons part parts =>
    rw [block_cons, List.map_cons, block_cons,
      sanitizeChars_cons_of_harmless (harmless_of_printable ho), hline,
      sanitizeChars_append _ (_ ++ _), sanitizeChars_intercalate hseparator,
      sanitizeChars_of_harmless hend, List.map_cons]

/-! ### Without high control characters -/

/-- The strings and names of a value have no control character from DEL on. -/
abbrev Safe (v : Json) : Prop := Texts (fun c => ¬ HighControl c) v

theorem harmless_pretty (h : Safe v) (ascii : Bool) (level : Nat) :
    Only Harmless (prettyAt ascii level v) :=
  (h.mono fun _ => harmless_of_low).only_pretty (fun _ => harmless_of_printable) (.inl rfl) ascii
    level

theorem sanitizeChars_pretty (h : Safe v) (ascii : Bool) (level : Nat) :
    sanitizeChars (prettyAt ascii level v) = prettyAt ascii level v :=
  sanitizeChars_of_harmless (harmless_pretty h ascii level)

/-! ### With high control characters -/

section

variable {α : Type} {text : α → List Char} {as : List α} {level : Nat}

theorem refused_block_items (h : ∀ a ∈ as, (∃ v, Reads v (text a)) ∨ Refused (text a))
    (hbad : ∃ a ∈ as, Refused (text a)) : Refused (block '[' ']' level (as.map text)) := by
  have hitems : RefusedItems (_ ++ (newLine level ++ [']'])) :=
    refusedItems_intercalate (blank_newLine (level + 1)) h hbad (by simp)
  obtain ⟨a, as, rfl⟩ := List.exists_cons_of_ne_nil (List.ne_nil_of_mem hbad.choose_spec.1)
  rw [List.map_cons, block_cons]
  exact hitems.arr (blank_newLine (level + 1))

theorem refused_block_members
    (h : ∀ a ∈ as, (∃ name v cs, text a = memberText false name [' '] cs ∧ Reads v cs) ∨
      RefusedMember (text a))
    (hbad : ∃ a ∈ as, RefusedMember (text a)) : Refused (block '{' '}' level (as.map text)) := by
  have hmembers := refusedMembers_intercalate (blank_newLine (level + 1)) (blank_singleton rfl) h
    hbad (newLine level ++ ['}'])
  obtain ⟨a, as, rfl⟩ := List.exists_cons_of_ne_nil (List.ne_nil_of_mem hbad.choose_spec.1)
  rw [List.map_cons, block_cons]
  exact hmembers.obj (blank_newLine (level + 1))

end

/-- A high control character stands in a string as it is, and is replaced by an escape that JSON
does not know. -/
theorem refusedString_sanitizeChars {s : List Char} (h : ∃ c ∈ s, HighControl c) :
    RefusedString (sanitizeChars (s.flatMap (escapeChar false))) := by
  induction s with
  | nil =>
    obtain ⟨c, hc, -⟩ := h
    cases hc
  | cons c s ih =>
    rw [List.flatMap_cons, sanitizeChars_append]
    by_cases hc : HighControl c
    · rw [escapeChar_of_high hc.1, sanitizeChars_cons_of_not_harmless (not_harmless_of_high hc)]
      exact refusedString_escape (by decide) rfl _
    · have hharmless : Only Harmless (escapeChar false c) :=
        only_escapeChar (fun _ => harmless_of_printable) false fun hlow => harmless_of_low hlow hc
      rw [sanitizeChars_of_harmless hharmless]
      obtain ⟨d, hd, hhigh⟩ := h
      have hd := (List.mem_cons.1 hd).resolve_left (by rintro rfl; exact hc hhigh)
      exact (ih ⟨d, hd, hhigh⟩).escapeChar false c

theorem refusedString_stringText {s : List Char} (h : ∃ c ∈ s, HighControl c) :
    ∃ cs, sanitizeChars (stringText false s) = '"' :: cs ∧ RefusedString cs := by
  have hquote : Harmless '"' := harmless_of_printable (by decide)
  refine ⟨_, ?_, (refusedString_sanitizeChars h).append ['"']⟩
  rw [stringText, List.cons_append, sanitizeChars_cons_of_harmless hquote, sanitizeChars_append]
  rfl

theorem sanitizeChars_memberText (name : String) (cs : List Char) :
    sanitizeChars (memberText false name [' '] cs) =
      sanitizeChars (stringText false name.toList) ++ ':' :: ' ' :: sanitizeChars cs := by
  have hcolon : Harmless ':' := harmless_of_printable (by decide)
  have hspace : Harmless ' ' := harmless_of_printable (by decide)
  rw [memberText, sanitizeChars_append, sanitizeChars_cons_of_harmless hcolon,
    List.singleton_append, sanitizeChars_cons_of_harmless hspace]

theorem sanitizeChars_stringText {s : List Char} (h : ¬ ∃ c ∈ s, HighControl c) :
    sanitizeChars (stringText false s) = stringText false s :=
  sanitizeChars_of_harmless (only_stringText (fun _ => harmless_of_printable) false
    fun c hc hlow => harmless_of_low hlow fun hhigh => h ⟨c, hc, hhigh⟩)

/-- A member whose name or value has a high control character. -/
theorem refusedMember_sanitizeChars {m : String × Json} {level : Nat}
    (hbad : (∃ c ∈ m.1.toList, HighControl c) ∨
      Refused (sanitizeChars (prettyAt false level m.2))) :
    RefusedMember (sanitizeChars (memberText false m.1 [' '] (prettyAt false level m.2))) := by
  rw [sanitizeChars_memberText]
  by_cases hname : ∃ c ∈ m.1.toList, HighControl c
  · obtain ⟨cs, heq, hrefused⟩ := refusedString_stringText hname
    rw [heq]
    exact hrefused.member _
  · rw [sanitizeChars_stringText hname]
    exact (hbad.resolve_left hname).member false m.1 (blank_singleton rfl)

theorem exists_of_not_safe_obj {ms : Members} (h : ¬ Safe (.obj ms)) :
    ∃ m ∈ ms, (∃ c ∈ m.1.toList, HighControl c) ∨ ¬ Safe m.2 := by
  by_contra hnone
  refine h (.obj (fun m hm c hc _ hhigh => ?_) fun m hm => ?_)
  · exact hnone ⟨m, hm, .inl ⟨c, hc, hhigh⟩⟩
  · exact not_not.1 fun hspoilt => hnone ⟨m, hm, .inr hspoilt⟩

/-- A value with a high control character in one of its strings or names cannot be read from its
sanitized text. -/
theorem refused_sanitizeChars (h : Writable v) (hbad : ¬ Safe v) (level : Nat) :
    Refused (sanitizeChars (prettyAt false level v)) := by
  induction h generalizing level with
  | null => exact absurd .null hbad
  | bool b => exact absurd (.bool b) hbad
  | int _ => exact absurd (.int _) hbad
  | float _ => exact absurd (.float _) hbad
  | str s =>
    obtain ⟨c, hc, hhigh⟩ : ∃ c ∈ s.toList, HighControl c := by
      by_contra hnone
      exact hbad (.str fun c hc _ hhigh => hnone ⟨c, hc, hhigh⟩)
    obtain ⟨cs, heq, hrefused⟩ := refusedString_stringText ⟨c, hc, hhigh⟩
    rw [prettyAt, heq]
    exact hrefused.refused
  | @arr vs hw ih =>
    obtain ⟨v, hv, hspoilt⟩ : ∃ v ∈ vs, ¬ Safe v := by
      by_contra hnone
      exact hbad (.arr fun v hv => not_not.1 fun hspoilt => hnone ⟨v, hv, hspoilt⟩)
    rw [prettyAt, prettyItems_eq, sanitizeChars_block (by decide) (by decide), List.map_map]
    refine refused_block_items (fun w hmem => ?_) ⟨v, hv, ih v hv hspoilt (level + 1)⟩
    by_cases hsafe : Safe w
    · refine .inl ⟨sorted w, ?_⟩
      rw [Function.comp_apply, sanitizeChars_pretty hsafe]
      exact (hw w hmem).reads_pretty false (level + 1)
    · exact .inr (ih w hmem hsafe (level + 1))
  | @obj ms hw ih =>
    obtain ⟨m, hm, hspoilt⟩ := exists_of_not_safe_obj hbad
    have hmem : ∀ m, m ∈ sortByName ms ↔ m ∈ ms := fun m => (sortByName_perm ms).mem_iff
    have hrefused : ∀ m ∈ ms, (∃ c ∈ m.1.toList, HighControl c) ∨ ¬ Safe m.2 →
        RefusedMember (sanitizeChars (memberText false m.1 [' ']
          (prettyAt false (level + 1) m.2))) := fun m hm hspoilt =>
      refusedMember_sanitizeChars (hspoilt.imp_right fun hvalue => ih m hm hvalue (level + 1))
    rw [prettyAt, prettyMembers_texts, sanitizeChars_block (by decide) (by decide), List.map_map]
    refine refused_block_members (fun w hmem' => ?_)
      ⟨m, (hmem m).2 hm, hrefused m hm hspoilt⟩
    by_cases hsafe : (∃ c ∈ w.1.toList, HighControl c) ∨ ¬ Safe w.2
    · exact .inr (hrefused w ((hmem w).1 hmem') hsafe)
    · rw [not_or, not_not] at hsafe
      refine .inl ⟨w.1, sorted w.2, prettyAt false (level + 1) w.2, ?_,
        (hw w ((hmem w).1 hmem')).reads_pretty false (level + 1)⟩
      rw [Function.comp_apply, sanitizeChars_memberText, sanitizeChars_stringText hsafe.1,
        sanitizeChars_pretty hsafe.2]
      rfl

end SymbolIndex.Terminal
