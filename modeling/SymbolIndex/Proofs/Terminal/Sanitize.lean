import SymbolIndex.Proofs.Json.Controls
import SymbolIndex.Terminal.Sanitize

/-!
# Sanitized text

`EscapesTo s t` says, character by character, how a text `s` is written as `t`: control characters
other than line ends and tabs as escapes, and all others as themselves. Sanitizing writes each text
so (`sanitizeChars_eq_iff`). Nothing is left that a terminal acts on (`harmless_sanitize`), and a
text without such characters, and no other, is left as it is (`sanitize_eq_self_iff`), so sanitizing
a text again changes nothing (`sanitize_sanitize`).
-/

namespace SymbolIndex.Terminal

/-- DEL and the control characters behind it. -/
def HighControl (c : Char) : Prop := 0x7f ≤ c.toNat ∧ c.toNat ≤ 0x9f

instance : DecidablePred HighControl := fun _ => instDecidableAnd

/-- A character that a terminal does not act on, a line end or a tab. -/
def Harmless (c : Char) : Prop :=
  c = '\n' ∨ c = '\r' ∨ c = '\t' ∨ 0x20 ≤ c.toNat ∧ ¬ HighControl c

variable {c d : Char} {s t : List Char}

theorem isControl_eq_false : isControl c = false ↔ Harmless c := by
  have hchar : ∀ e : Char, c = e ↔ c.toNat = e.toNat := fun e => Char.toNat_inj.symm
  simp only [isControl, controlRanges, Harmless, HighControl, hchar]
  simp only [List.any_cons, List.any_nil, Nat.zero_le, decide_true, Bool.true_and, Bool.or_false,
    Bool.or_eq_false_iff, Bool.and_eq_false_imp, decide_eq_false_iff_not, decide_eq_true_eq,
    Nat.not_le, not_and, Char.isValue, Char.reduceToNat]
  omega

theorem isControl_eq_true : isControl c = true ↔ ¬ Harmless c := by
  rw [← isControl_eq_false, Bool.not_eq_false]

theorem sanitizeChar_eq (c : Char) :
    sanitizeChar c = if isControl c then '\\' :: 'x' :: Text.hex 2 c.toNat else [c] := by
  cases h : isControl c with
  | false =>
    rcases isControl_eq_false.1 h with rfl | rfl | rfl | ⟨hlow, hhigh⟩
    · rfl
    · rfl
    · rfl
    · rw [HighControl] at hhigh
      unfold sanitizeChar
      split
      · rfl
      · rw [if_neg (by omega)]
        rfl
  | true =>
    have hbad := isControl_eq_true.1 h
    simp only [Harmless, HighControl, not_or] at hbad
    obtain ⟨hfeed, hreturn, htab, hcode⟩ := hbad
    rw [sanitizeChar, if_neg (by simp only [hfeed, hreturn, htab, or_self, not_false_eq_true]),
      if_pos (by omega)]
    rfl

theorem sanitizeChar_of_harmless (h : Harmless c) : sanitizeChar c = [c] := by
  rw [sanitizeChar_eq, isControl_eq_false.2 h]
  rfl

theorem sanitizeChar_of_not_harmless (h : ¬ Harmless c) :
    sanitizeChar c = '\\' :: 'x' :: Text.hex 2 c.toNat := by
  rw [sanitizeChar_eq, if_pos (isControl_eq_true.2 h)]

/-- The characters that change are those that are looked for. -/
theorem sanitizeChar_eq_self_iff : sanitizeChar c = [c] ↔ isControl c = false := by
  constructor
  · intro h
    rw [isControl_eq_false]
    by_contra hbad
    have hlength : (sanitizeChar c).length = 1 := by rw [h, List.length_singleton]
    rw [sanitizeChar_of_not_harmless hbad, List.length_cons, List.length_cons, Text.length_hex]
      at hlength
    exact absurd hlength (by decide)
  · intro h
    exact sanitizeChar_of_harmless (isControl_eq_false.1 h)

theorem not_harmless_of_high (h : HighControl c) : ¬ Harmless c := by
  rintro (rfl | rfl | rfl | ⟨_, hlow⟩)
  · exact absurd h.1 (by decide)
  · exact absurd h.1 (by decide)
  · exact absurd h.1 (by decide)
  · exact hlow h

theorem harmless_of_low (hc : 0x20 ≤ c.toNat) (h : ¬ HighControl c) : Harmless c :=
  .inr (.inr (.inr ⟨hc, h⟩))

/-- The code points of control characters have two hexadecimal digits. -/
theorem toNat_le_of_not_harmless (h : ¬ Harmless c) : c.toNat ≤ 0x9f := by
  by_contra hlarge
  exact h (harmless_of_low (by omega) fun hhigh => hlarge hhigh.2)

theorem harmless_of_printable (h : Json.Printable c) : Harmless c :=
  harmless_of_low h.1 fun hhigh => absurd hhigh.1 (Nat.not_le.2 h.2)

/-- A control character is written with printable ones, and any other as itself. -/
theorem printable_or_eq_of_mem_sanitizeChar (h : d ∈ sanitizeChar c) :
    isControl c = true ∧ Json.Printable d ∨ isControl c = false ∧ d = c := by
  rw [sanitizeChar_eq] at h
  split at h
  · rename_i hcontrol
    refine .inl ⟨hcontrol, ?_⟩
    rcases List.mem_cons.1 h with rfl | h
    · decide
    rcases List.mem_cons.1 h with rfl | h
    · decide
    · exact Json.printable_hex 2 _ d h
  · rename_i hcontrol
    exact .inr ⟨Bool.eq_false_iff.2 hcontrol, List.mem_singleton.1 h⟩

/-! ### Texts -/

/-- That a text is first searched for control characters makes no difference: it is rewritten
character by character. -/
theorem sanitizeChars_eq (s : List Char) : sanitizeChars s = s.flatMap sanitizeChar := by
  unfold sanitizeChars
  split
  · rfl
  · rename_i hnone
    rw [List.any_eq_true, not_exists] at hnone
    have hone : ∀ c ∈ s, sanitizeChar c = [c] := by
      intro c hc
      rw [sanitizeChar_eq_self_iff, ← Bool.not_eq_true]
      exact fun hcontrol => hnone c ⟨hc, hcontrol⟩
    rw [List.flatMap_congr hone, List.flatMap_singleton']

theorem sanitizeChars_append (s t : List Char) :
    sanitizeChars (s ++ t) = sanitizeChars s ++ sanitizeChars t := by
  simp only [sanitizeChars_eq, List.flatMap_append]

theorem sanitizeChars_cons (c : Char) (s : List Char) :
    sanitizeChars (c :: s) = sanitizeChar c ++ sanitizeChars s := by
  simp only [sanitizeChars_eq, List.flatMap_cons]

theorem sanitizeChars_cons_of_harmless (hc : Harmless c) (s : List Char) :
    sanitizeChars (c :: s) = c :: sanitizeChars s := by
  rw [sanitizeChars_cons, sanitizeChar_of_harmless hc, List.singleton_append]

theorem sanitizeChars_cons_of_not_harmless (hc : ¬ Harmless c) (s : List Char) :
    sanitizeChars (c :: s) = '\\' :: 'x' :: (Text.hex 2 c.toNat ++ sanitizeChars s) := by
  rw [sanitizeChars_cons, sanitizeChar_of_not_harmless hc, List.cons_append, List.cons_append]

theorem sanitizeChars_of_harmless (h : Json.Only Harmless s) : sanitizeChars s = s := by
  rw [sanitizeChars_eq, List.flatMap_congr fun c hc => sanitizeChar_of_harmless (h c hc),
    List.flatMap_singleton']

/-- A text without control characters is left as it is. -/
theorem sanitize_of_harmless {text : String} (h : Json.Only Harmless text.toList) :
    sanitize text = text := by
  rw [sanitize, sanitizeChars_of_harmless h, String.ofList_toList]

theorem toList_sanitize (text : String) :
    (sanitize text).toList = text.toList.flatMap sanitizeChar := by
  rw [sanitize, String.toList_ofList, sanitizeChars_eq]

/-- Nothing is left that a terminal acts on. -/
theorem harmless_sanitize (text : String) : Json.Only Harmless (sanitize text).toList := by
  intro d hd
  rw [toList_sanitize] at hd
  obtain ⟨c, _, hd⟩ := List.mem_flatMap.1 hd
  rcases printable_or_eq_of_mem_sanitizeChar hd with ⟨-, hprintable⟩ | ⟨hplain, rfl⟩
  · exact harmless_of_printable hprintable
  · exact isControl_eq_false.1 hplain

theorem sanitize_sanitize (text : String) : sanitize (sanitize text) = sanitize text :=
  sanitize_of_harmless (harmless_sanitize text)

theorem sanitize_eq_self_iff {text : String} :
    sanitize text = text ↔ Json.Only Harmless text.toList := by
  constructor
  · intro h
    rw [← h]
    exact harmless_sanitize text
  · exact sanitize_of_harmless

theorem sanitize_append (a b : String) : sanitize (a ++ b) = sanitize a ++ sanitize b := by
  rw [sanitize, sanitize, sanitize, ← String.ofList_append, String.toList_append,
    sanitizeChars_append]

/-! ### Escapes -/

/-- The hexadecimal digits, each in the place of its value. -/
def hexAlphabet : List Char := "0123456789abcdef".toList

theorem hexAlphabet_eq_some_iff {n : Nat} :
    hexAlphabet[n]? = some d ↔ n < 16 ∧ Text.hexDigit n = d := by
  have hdigit : ∀ n < 16, hexAlphabet[n]? = some (Text.hexDigit n) := by decide
  have hlength : hexAlphabet.length = 16 := by decide
  constructor
  · intro h
    obtain ⟨hn, -⟩ := List.getElem?_eq_some_iff.1 h
    rw [hlength] at hn
    rw [hdigit n hn, Option.some.injEq] at h
    exact ⟨hn, h⟩
  · rintro ⟨hn, rfl⟩
    exact hdigit n hn

theorem hex_two (n : Nat) :
    Text.hex 2 n = [Text.hexDigit (n / 16 % 16), Text.hexDigit (n % 16)] := rfl

/-- How a text is written with its control characters, other than line ends and tabs, as escapes. -/
inductive EscapesTo : List Char → List Char → Prop where
  | nil : EscapesTo [] []
  | harmless {c : Char} {s t : List Char} (hc : Harmless c) (h : EscapesTo s t) :
    EscapesTo (c :: s) (c :: t)
  | control {c d e : Char} {s t : List Char} {high low : Nat} (hc : ¬ Harmless c)
    (hcode : c.toNat = 16 * high + low) (hd : hexAlphabet[high]? = some d)
    (he : hexAlphabet[low]? = some e) (h : EscapesTo s t) :
    EscapesTo (c :: s) ('\\' :: 'x' :: d :: e :: t)

theorem EscapesTo.sanitizeChars_eq (h : EscapesTo s t) : sanitizeChars s = t := by
  induction h with
  | nil => rfl
  | harmless hc _ ih => rw [sanitizeChars_cons_of_harmless hc, ih]
  | @control c _ _ _ _ high low hc hcode hd he _ ih =>
    obtain ⟨hhigh, rfl⟩ := hexAlphabet_eq_some_iff.1 hd
    obtain ⟨hlow, rfl⟩ := hexAlphabet_eq_some_iff.1 he
    have hquotient : c.toNat / 16 % 16 = high := by omega
    have hrest : c.toNat % 16 = low := by omega
    rw [sanitizeChars_cons_of_not_harmless hc, hex_two, hquotient, hrest, ih]
    rfl

theorem escapesTo_sanitizeChars (s : List Char) : EscapesTo s (sanitizeChars s) := by
  induction s with
  | nil => exact .nil
  | cons c s ih =>
    by_cases hc : Harmless c
    · rw [sanitizeChars_cons_of_harmless hc]
      exact .harmless hc ih
    · have hcode := toNat_le_of_not_harmless hc
      have hhigh : hexAlphabet[c.toNat / 16 % 16]? = some (Text.hexDigit (c.toNat / 16 % 16)) :=
        hexAlphabet_eq_some_iff.2 ⟨by omega, rfl⟩
      have hlow : hexAlphabet[c.toNat % 16]? = some (Text.hexDigit (c.toNat % 16)) :=
        hexAlphabet_eq_some_iff.2 ⟨by omega, rfl⟩
      rw [sanitizeChars_cons_of_not_harmless hc, hex_two]
      exact .control hc (by omega) hhigh hlow ih

theorem sanitizeChars_eq_iff : sanitizeChars s = t ↔ EscapesTo s t := by
  constructor
  · rintro rfl
    exact escapesTo_sanitizeChars s
  · exact EscapesTo.sanitizeChars_eq

theorem sanitize_eq_iff {text out : String} :
    sanitize text = out ↔ EscapesTo text.toList out.toList := by
  rw [← sanitizeChars_eq_iff, ← String.toList_inj, sanitize, String.toList_ofList]

/-- A text is searched for just those characters that the rewriting changes, so returning a text
without them at once makes no difference. A text is sanitized exactly if its control characters,
other than line ends and tabs, are written as a backslash, an `x` and two lower-case digits, and its
other characters as themselves. Sanitizing respects joining of texts, leaves none of these control
characters, and leaves just the texts without them as they are. -/
theorem sanitize_escapes_controls :
    (∀ c, isControl c = false ↔ sanitizeChar c = [c]) ∧
    (∀ text, (sanitize text).toList = text.toList.flatMap sanitizeChar) ∧
    (∀ text out, sanitize text = out ↔ EscapesTo text.toList out.toList) ∧
    (∀ a b, sanitize (a ++ b) = sanitize a ++ sanitize b) ∧
    (∀ text, ∀ c ∈ (sanitize text).toList, Harmless c) ∧
    (∀ text, sanitize (sanitize text) = sanitize text) ∧
    ∀ text, sanitize text = text ↔ ∀ c ∈ text.toList, Harmless c :=
  ⟨fun _ => sanitizeChar_eq_self_iff.symm, toList_sanitize, fun _ _ => sanitize_eq_iff,
    sanitize_append, harmless_sanitize, sanitize_sanitize, fun _ => sanitize_eq_self_iff⟩

/-- The control characters at the ends of their runs, and the characters beside these. -/
def controlBoundaries : String := "\x00\x08\t\n\x0b\x0c\r\x0e\x1f ~\x7f\x80\x9f\u00a0"

def escapedBoundaries : String :=
  "\\x00\\x08\t\n\\x0b\\x0c\r\\x0e\\x1f ~\\x7f\\x80\\x9f\u00a0"

theorem sanitize_escapes_controls_boundaries :
    sanitize controlBoundaries = escapedBoundaries ∧
    EscapesTo controlBoundaries.toList escapedBoundaries.toList ∧
    '\t' ∈ (sanitize controlBoundaries).toList ∧ Harmless '\t' ∧
    '\x7f' ∈ controlBoundaries.toList ∧ ¬ Harmless '\x7f' ∧
    sanitize controlBoundaries ≠ controlBoundaries := by
  obtain ⟨-, -, hescapes, -, hharmless, -, hself⟩ := sanitize_escapes_controls
  have hescaped : sanitize controlBoundaries = escapedBoundaries := by decide
  have htab : '\t' ∈ (sanitize controlBoundaries).toList := by decide
  have hdelete : '\x7f' ∈ controlBoundaries.toList := by decide
  have hbad : ¬ Harmless '\x7f' := not_harmless_of_high (by decide)
  exact ⟨hescaped, (hescapes _ _).1 hescaped, htab, hharmless _ _ htab, hdelete, hbad,
    fun h => hbad ((hself _).1 h _ hdelete)⟩

end SymbolIndex.Terminal
