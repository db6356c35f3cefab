import SymbolIndex.Json.Printer
import SymbolIndex.Json.Reader

/-!
# What the reader takes for a value

`Reads v cs` says that the reader takes the text `cs` for `v` and leaves what stands behind it,
as long as that does not go on with a number. `ReadsItems` and `ReadsMembers` say the same of the
text behind an opening bracket. There is one lemma for each way to build a value, so that a
writer is shown correct by following its own recursion.

A text of `n` characters needs fuel `2 * n`: a bracket takes one character and two calls, an
item at least two characters and two calls.
-/

namespace SymbolIndex.Json

open Text

/-! ### Strings -/

/-- The code units that a character is written with. -/
def units (ascii : Bool) (c : Char) : List Nat :=
  if ascii && 0x10000 ≤ c.toNat then
    [0xd800 + (c.toNat - 0x10000) / 0x400, 0xdc00 + (c.toNat - 0x10000) % 0x400]
  else [c.toNat]

/-- How a character can stand in a string: as an escape with a letter, as one with its code or
with those of two surrogates, or as it is. -/
inductive Escaped (ascii : Bool) (c : Char) : List Char → Prop where
  | simple {e : Char} (he : e ≠ 'u') (hc : simpleEscape? e = some c) (hlow : c.toNat < 0x7f) :
    Escaped ascii c ['\\', e]
  | code (h : c.toNat < 0x10000) (hlow : c.toNat < 0x20 ∨ ascii = true) :
    Escaped ascii c (codeEscape c.toNat)
  | pair (ha : ascii = true) (h : 0x10000 ≤ c.toNat) :
    Escaped ascii c (codeEscape (0xd800 + (c.toNat - 0x10000) / 0x400) ++
      codeEscape (0xdc00 + (c.toNat - 0x10000) % 0x400))
  | plain (hq : c ≠ '"') (hb : c ≠ '\\') (hlow : ¬ c.toNat < 0x20)
    (ha : ascii = false ∨ c.toNat < 0x7f) : Escaped ascii c [c]

theorem escaped_escapeChar (ascii : Bool) (c : Char) : Escaped ascii c (escapeChar ascii c) := by
  unfold escapeChar
  iterate 7
    split
    · subst c
      exact .simple (by decide) rfl (by decide)
  rename_i hq hb _ _ _ _ _
  split
  · rename_i hlow
    exact .code (by omega) (.inl hlow)
  rename_i hlow
  split
  · rename_i ha
    rw [Bool.and_eq_true] at ha
    split
    · rename_i hc
      exact .code hc (.inr ha.1)
    · rename_i hc
      exact .pair ha.1 (Nat.not_lt.1 hc)
  · rename_i ha
    refine .plain hq hb hlow ?_
    cases ascii with
    | false => exact .inl rfl
    | true => exact .inr (by simpa using ha)

theorem codeUnit?_hexDigit {n : Nat} (h : n < 0x10000) :
    codeUnit? (hexDigit (n / 16 / 16 / 16 % 16)) (hexDigit (n / 16 / 16 % 16))
      (hexDigit (n / 16 % 16)) (hexDigit (n % 16)) = some n := by
  simp only [codeUnit?, hexValue?_hexDigit _ (Nat.mod_lt _ (by omega : 16 > 0)),
    Option.bind_eq_bind, Option.bind_some, Option.pure_def, Option.some.injEq]
  omega

theorem valid_toNat (c : Char) :
    c.toNat < 0xd800 ∨ (0xdfff < c.toNat ∧ c.toNat < 0x110000) := c.valid

section
variable {whole tail rest : List Char} {us : List Nat}

/-- A text that ends in a string is not empty. -/
theorem exists_cons_of_stringUnits (h : stringUnits whole tail = .ok (us, rest)) :
    ∃ c t, tail = c :: t := by
  cases tail with
  | nil => rw [stringUnits] at h; cases h
  | cons c t => exact ⟨c, t, rfl⟩

theorem stringUnits_codeEscape {n : Nat} (hn : n < 0x10000)
    (h : stringUnits whole tail = .ok (us, rest)) :
    stringUnits whole (codeEscape n ++ tail) = .ok (n :: us, rest) := by
  obtain ⟨c, t, rfl⟩ := exists_cons_of_stringUnits h
  simp only [codeEscape, hex, List.nil_append, List.cons_append]
  rw [stringUnits.eq_def]
  simp only [codeUnit?_hexDigit hn, h]
  rfl

theorem stringUnits_simpleEscape {e c : Char} (he : e ≠ 'u') (hc : simpleEscape? e = some c)
    (h : stringUnits whole tail = .ok (us, rest)) :
    stringUnits whole ('\\' :: e :: tail) = .ok (c.toNat :: us, rest) := by
  rw [stringUnits]
  · simp only [hc, h]
    rfl
  · rintro a b c d r rfl; exact absurd rfl he
  · exact he

theorem stringUnits_plain {c : Char} (hq : c ≠ '"') (hb : c ≠ '\\') (hc : ¬ c.toNat < 0x20)
    (h : stringUnits whole tail = .ok (us, rest)) :
    stringUnits whole (c :: tail) = .ok (c.toNat :: us, rest) := by
  rw [stringUnits]
  · simp only [hc, h]
    rfl
  all_goals simp_all

theorem stringUnits_escapeChar (ascii : Bool) (c : Char)
    (h : stringUnits whole tail = .ok (us, rest)) :
    stringUnits whole (escapeChar ascii c ++ tail) = .ok (units ascii c ++ us, rest) := by
  have hone : c.toNat < 0x10000 → units ascii c = [c.toNat] := by
    intro hc; simp [units, Nat.not_le.2 hc]
  have hvalid := valid_toNat c
  have hescaped := escaped_escapeChar ascii c
  generalize escapeChar ascii c = text at hescaped
  cases hescaped with
  | simple he hc hlow => rw [hone (by omega)]; exact stringUnits_simpleEscape he hc h
  | code hc hlow => rw [hone hc]; exact stringUnits_codeEscape hc h
  | pair ha hc =>
    rw [List.append_assoc, units, if_pos (by simp [ha, hc])]
    exact stringUnits_codeEscape (by omega) (stringUnits_codeEscape (by omega) h)
  | plain hq hb hs ha =>
    rw [units, if_neg (by rcases ha with rfl | ha <;> simp; omega)]
    exact stringUnits_plain hq hb hs h

/-- The units of a string that was written, up to its closing quote. -/
theorem stringUnits_flatMap (ascii : Bool) (s : List Char) :
    stringUnits whole (s.flatMap (escapeChar ascii) ++ '"' :: rest) =
      .ok (s.flatMap (units ascii), rest) := by
  induction s with
  | nil => rw [List.flatMap_nil, List.nil_append, stringUnits]; rfl
  | cons c s ih =>
    rw [List.flatMap_cons, List.flatMap_cons, List.append_assoc]
    exact stringUnits_escapeChar ascii c ih

end

theorem unitPoint_toNat (c : Char) : unitPoint c.toNat = .char c := by
  have := valid_toNat c
  unfold unitPoint
  rw [if_neg (by omega), Char.ofNat_toNat]

theorem joinUnits_units (ascii : Bool) (c : Char) (us : List Nat) :
    joinUnits (units ascii c ++ us) = .char c :: joinUnits us := by
  have hv := valid_toNat c
  unfold units
  split
  · rename_i hc
    simp only [Bool.and_eq_true, decide_eq_true_eq] at hc
    simp only [List.cons_append, List.nil_append]
    rw [joinUnits, if_pos (by omega)]
    rw [show 0x10000 + (0xd800 + (c.toNat - 0x10000) / 0x400 - 0xd800) * 0x400 +
      (0xdc00 + (c.toNat - 0x10000) % 0x400 - 0xdc00) = c.toNat by omega, Char.ofNat_toNat]
  · cases us with
    | nil => simp [joinUnits, unitPoint_toNat]
    | cons u us => rw [List.singleton_append, joinUnits, if_neg (by omega), unitPoint_toNat]

theorem joinUnits_flatMap (ascii : Bool) (s : List Char) :
    joinUnits (s.flatMap (units ascii)) = s.map .char := by
  induction s with
  | nil => rfl
  | cons c s ih => rw [List.flatMap_cons, joinUnits_units, ih, List.map_cons]

@[simp] theorem map_toChar_map_char (s : List Char) :
    (s.map Utf8.CodePoint.char).map Utf8.CodePoint.toChar = s := by
  rw [List.map_map]
  exact List.map_id s

/-- A string is read from behind its opening quote. -/
theorem string_stringText (ascii : Bool) (s : String) (rest : List Char) :
    string (s.toList.flatMap (escapeChar ascii) ++ '"' :: rest) = .ok (s, rest) := by
  unfold string stringPoints
  rw [stringUnits_flatMap]
  simp only [bind, Except.bind, pure, Except.pure, joinUnits_flatMap, map_toChar_map_char,
    String.ofList_toList]

/-! ### Numbers -/

theorem digitChar_ne_zero : ∀ n < 10, 0 < n → Nat.digitChar n ≠ '0' := by decide

theorem head_toDigits_ne_zero {n : Nat} (hn : 0 < n) : (Nat.toDigits 10 n).head? ≠ some '0' := by
  induction n using Nat.strongRecOn with
  | ind n ih =>
    rcases Nat.lt_or_ge n 10 with h | h
    · rw [Nat.toDigits_of_lt_base h]
      simpa using digitChar_ne_zero n h hn
    · rw [Nat.toDigits_of_base_le (by omega) h]
      have := ih (n / 10) (by omega) (by omega)
      cases hd : Nat.toDigits 10 (n / 10) with
      | nil => exact absurd hd Nat.toDigits_ne_nil
      | cons c t => rw [hd] at this; simpa using this

/-- The text behind a value does not go on with a number. -/
def Ends (rest : List Char) : Prop :=
  ∀ c ∈ rest.head?, c.isDigit = false ∧ c ≠ '.' ∧ c ≠ 'e' ∧ c ≠ 'E'

/-- The text behind digits does not go on with one. -/
def EndsDigits (rest : List Char) : Prop := ∀ c ∈ rest.head?, c.isDigit = false

theorem Ends.endsDigits {rest : List Char} (hr : Ends rest) : EndsDigits rest :=
  fun c hc => (hr c hc).1

theorem digits_append {ds rest : List Char} (hd : ∀ c ∈ ds, c.isDigit = true)
    (hr : EndsDigits rest) : digits (ds ++ rest) = (ds, rest) := by
  have hrest : rest.takeWhile Char.isDigit = [] ∧ rest.dropWhile Char.isDigit = rest := by
    cases rest with
    | nil => simp
    | cons c t => simp [hr c rfl]
  rw [digits, List.takeWhile_append_of_pos hd, List.dropWhile_append_of_pos hd, hrest.1, hrest.2,
    List.append_nil]

theorem wholePart?_append {ds rest : List Char} (hne : ds ≠ []) (hd : ∀ c ∈ ds, c.isDigit = true)
    (h0 : ds.head? ≠ some '0') (hr : EndsDigits rest) :
    wholePart? (ds ++ rest) = some (ds, rest) := by
  have happ := digits_append hd hr
  cases ds with
  | nil => exact absurd rfl hne
  | cons c t =>
    rw [List.cons_append] at happ ⊢
    rw [wholePart?, if_pos (hd c (by simp)), happ]
    simpa using h0

theorem isDigit_of_mem_toDigits {n : Nat} : ∀ c ∈ Nat.toDigits 10 n, c.isDigit = true :=
  fun _ hc => Nat.isDigit_of_mem_toDigits (by decide) (by decide) hc

theorem wholePart?_toDigits (n : Nat) {rest : List Char} (hr : EndsDigits rest) :
    wholePart? (Nat.toDigits 10 n ++ rest) = some (Nat.toDigits 10 n, rest) := by
  rcases Nat.eq_zero_or_pos n with rfl | hn
  · rw [Nat.toDigits_zero]; rfl
  · exact wholePart?_append Nat.toDigits_ne_nil isDigit_of_mem_toDigits (head_toDigits_ne_zero hn)
      hr

theorem Ends.fraction_eq {rest : List Char} (hr : Ends rest) : fraction rest = ([], rest) := by
  unfold fraction
  split
  · exact absurd rfl (hr '.' rfl).2.1
  · rfl

theorem Ends.exponent?_eq {rest : List Char} (hr : Ends rest) : exponent? rest = none := by
  cases rest with
  | nil => rfl
  | cons c t => rw [exponent?, if_neg (by simp [hr c rfl])]

theorem number?_toDigits (negative : Bool) {n : Nat} {rest : List Char}
    (hn : (Nat.toDigits 10 n).length ≤ Text.Numeral.maxDigits) (hr : Ends rest) :
    number? negative (Nat.toDigits 10 n ++ rest) =
      some (.ok (.int (if negative then -n else n), rest)) := by
  unfold number?
  rw [wholePart?_toDigits n hr.endsDigits]
  simp only [Option.bind_eq_bind, Option.bind_some, hr.fraction_eq, hr.exponent?_eq,
    List.append_nil, Nat.ofDigitChars_ten_toDigits, List.isEmpty_nil, if_true,
    if_neg (Nat.not_lt.2 hn)]
  rfl

/-- A whole number of too many digits. -/
theorem number?_long (negative : Bool) {ds rest : List Char}
    (hlong : Text.Numeral.maxDigits < ds.length) (hd : ∀ c ∈ ds, c.isDigit = true)
    (h0 : ds.head? ≠ some '0') (hr : Ends rest) :
    number? negative (ds ++ rest) = some (.error (.hugeInteger ds.length)) := by
  have hne : ds ≠ [] := by
    rintro rfl
    exact absurd hlong (Nat.not_lt_zero _)
  unfold number?
  rw [wholePart?_append hne hd h0 hr.endsDigits]
  simp only [Option.bind_eq_bind, Option.bind_some, hr.fraction_eq, hr.exponent?_eq,
    List.isEmpty_nil, if_true, if_pos hlong]
  rfl

theorem value_scalar {fuel : Nat} {s : List Char}
    (h : ∀ c ∈ s.head?, c ≠ '"' ∧ c ≠ '[' ∧ c ≠ '{') : value (fuel + 1) s = scalar s := by
  rw [value.eq_def]
  simp only
  split
  · exact absurd rfl (h _ rfl).1
  · exact absurd rfl (h _ rfl).2.1
  · exact absurd rfl (h _ rfl).2.2
  · rfl

theorem scalar_digits {c : Char} {t : List Char} (hc : c.isDigit = true) :
    scalar (c :: t) = (number? false (c :: t)).getD (stopAt .expectingValue (c :: t)) := by
  rw [scalar.eq_def]
  split
  all_goals first | rfl | (rename_i h; cases h; exact absurd hc (by decide))

theorem scalar_minus {c : Char} {t : List Char} (hc : c.isDigit = true) :
    scalar ('-' :: c :: t) = (number? true (c :: t)).getD (stopAt .expectingValue ('-' :: c :: t)) := by
  rw [scalar.eq_def]
  split
  all_goals first | rfl | (rename_i h; cases h; exact absurd hc (by decide)) | (rename_i h; simp_all)

theorem toDigits_eq_cons (n : Nat) : ∃ c t, Nat.toDigits 10 n = c :: t ∧ c.isDigit = true := by
  cases h : Nat.toDigits 10 n with
  | nil => exact absurd h Nat.toDigits_ne_nil
  | cons c t =>
    exact ⟨c, t, rfl, Nat.isDigit_of_mem_toDigits (b := 10) (n := n) (by omega) (by omega)
      (by simp [h])⟩

theorem scalar_intText {n : Int} {rest : List Char}
    (hn : (Nat.toDigits 10 n.natAbs).length ≤ Text.Numeral.maxDigits) (hr : Ends rest) :
    scalar (intText n ++ rest) = .ok (.int n, rest) := by
  obtain ⟨c, t, hds, hc⟩ := toDigits_eq_cons n.natAbs
  unfold intText
  split
  · have hnum := number?_toDigits true hn hr
    rw [hds, List.cons_append] at hnum
    rw [hds, List.cons_append, List.cons_append, scalar_minus hc, hnum]
    rw [if_pos rfl, show (-(n.natAbs : Int)) = n by omega]
    rfl
  · have hnum := number?_toDigits false hn hr
    rw [hds, List.cons_append] at hnum
    rw [hds, List.cons_append, scalar_digits hc, hnum]
    rw [if_neg (by decide), show ((n.natAbs : Int)) = n by omega]
    rfl

/-! ### Values -/

/-- The reader takes `cs` for `v` and leaves what stands behind it. -/
def Reads (v : Json) (cs : List Char) : Prop :=
  ∀ fuel rest, 2 * cs.length ≤ fuel → Ends rest → value fuel (cs ++ rest) = .ok (v, rest)

/-- Behind an opening bracket the reader takes `cs` for the items `vs` and the closing one. -/
def ReadsItems (vs : List Json) (cs : List Char) : Prop :=
  ∀ fuel rest, 2 * cs.length ≤ fuel → items fuel (cs ++ rest) = .ok (vs, rest)

def ReadsMembers (ms : List (String × Json)) (cs : List Char) : Prop :=
  ∀ fuel rest, 2 * cs.length ≤ fuel → members fuel (cs ++ rest) = .ok (ms, rest)

def Blank (ws : List Char) : Prop := ∀ c ∈ ws, isSpace c = true

theorem blank_nil : Blank [] := fun c hc => by cases hc

theorem skipSpace_append {ws s : List Char} (hw : Blank ws)
    (hs : ∀ c ∈ s.head?, isSpace c = false) : skipSpace (ws ++ s) = s := by
  rw [skipSpace, List.dropWhile_append_of_pos hw]
  cases s with
  | nil => rfl
  | cons c t => rw [List.dropWhile_cons_of_neg (by simp [hs c rfl])]

theorem ends_of_isSpace {c : Char} {t : List Char} (h : isSpace c = true) : Ends (c :: t) := by
  intro d hd
  obtain rfl : c = d := by simpa using hd
  simp only [isSpace, Bool.or_eq_true, decide_eq_true_eq] at h
  rcases h with ((rfl | rfl) | rfl) | rfl <;> decide

theorem ends_append {ws s : List Char} (hw : Blank ws) (hs : Ends s) : Ends (ws ++ s) := by
  cases ws with
  | nil => exact hs
  | cons c t => exact ends_of_isSpace (hw c (by simp))

theorem ends_cons {c : Char} {t : List Char} (h : c = ',' ∨ c = ']' ∨ c = '}') : Ends (c :: t) := by
  intro d hd
  obtain rfl : c = d := by simpa using hd
  rcases h with rfl | rfl | rfl <;> decide

/-- What no value begins with: a blank, a closing bracket, a byte order mark. -/
def BadHead (c : Char) : Prop := isSpace c = true ∨ c = ']' ∨ c = '\uFEFF'

theorem value_badHead (fuel : Nat) {c : Char} (t : List Char) (h : BadHead c) :
    ∃ e, value fuel (c :: t) = .error e := by
  cases fuel with
  | zero => exact ⟨_, rfl⟩
  | succ n =>
    simp only [BadHead, isSpace, Bool.or_eq_true, decide_eq_true_eq] at h
    rcases h with (((rfl | rfl) | rfl) | rfl) | rfl | rfl <;> exact ⟨_, rfl⟩

/-- A text that a value may begin. -/
def Starts (cs : List Char) : Prop := ∃ c t, cs = c :: t ∧ ¬ BadHead c

section
variable {v : Json} {vs : List Json} {cs ws : List Char}

theorem Reads.starts (h : Reads v cs) : Starts cs := by
  have h0 := h (2 * cs.length) [] (Nat.le_refl _) (fun c hc => by cases hc)
  rw [List.append_nil] at h0
  cases cs with
  | nil => cases h0
  | cons c t =>
    refine ⟨c, t, rfl, fun hc => ?_⟩
    obtain ⟨e, he⟩ := value_badHead (2 * (c :: t).length) t hc
    rw [he] at h0; cases h0

theorem ReadsItems.starts (h : ReadsItems vs cs) : Starts cs := by
  have h0 := h (2 * cs.length) [] (Nat.le_refl _)
  rw [List.append_nil] at h0
  cases cs with
  | nil => cases h0
  | cons c t =>
    refine ⟨c, t, rfl, fun hc => ?_⟩
    obtain ⟨e, he⟩ := value_badHead (2 * t.length + 1) t hc
    rw [show 2 * (c :: t).length = 2 * t.length + 1 + 1 by simp; omega, items, he] at h0
    cases h0

theorem Starts.append (h : Starts cs) (ds : List Char) : Starts (cs ++ ds) := by
  obtain ⟨c, t, rfl, hc⟩ := h
  exact ⟨c, t ++ ds, rfl, hc⟩

theorem isSpace_of_not_badHead {c : Char} (h : ¬ BadHead c) : isSpace c = false := by
  simpa using fun hs => h (.inl hs)

theorem Starts.skipSpace_append (h : Starts cs) (hw : Blank ws) : skipSpace (ws ++ cs) = cs := by
  obtain ⟨c, t, rfl, hc⟩ := h
  exact Json.skipSpace_append hw (by simp [isSpace_of_not_badHead hc])

end

theorem Reads.int {n : Int} (hn : (Nat.toDigits 10 n.natAbs).length ≤ Text.Numeral.maxDigits) :
    Reads (.int n) (intText n) := by
  intro fuel rest hf hr
  obtain ⟨c, t, hct, hc⟩ : ∃ c t, intText n = c :: t ∧ (c = '-' ∨ c.isDigit = true) := by
    obtain ⟨c, t, hds, hc⟩ := toDigits_eq_cons n.natAbs
    unfold intText
    split
    · exact ⟨'-', _, rfl, .inl rfl⟩
    · exact ⟨c, t, hds, .inr hc⟩
  obtain ⟨m, rfl⟩ : ∃ m, fuel = m + 1 := ⟨fuel - 1, by simp [hct] at hf; omega⟩
  rw [value_scalar, scalar_intText hn hr]
  intro d hd
  obtain rfl : c = d := by simpa [hct] using hd
  refine ⟨?_, ?_, ?_⟩ <;> (rintro rfl; revert hc; decide)

/-! ### Steps of the reader -/

/-- The text of a member: its name, a colon, blanks and the text of its value. -/
def memberText (ascii : Bool) (name : String) (ws cs : List Char) : List Char :=
  stringText ascii name.toList ++ ':' :: (ws ++ cs)

section
variable {v : Json} {cs ds ws w₁ w₂ w₃ : List Char}

theorem value_string (n : Nat) (cs : List Char) :
    value (n + 1) ('"' :: cs) = (do
      let (s, rest) ← string cs
      return (.str s, rest)) := by
  rw [value.eq_def]
  rfl

theorem value_array (n : Nat) (hw : Blank ws) (hs : Starts cs) :
    value (n + 1) ('[' :: (ws ++ cs)) = (do
      let (vs, rest) ← items n cs
      return (.arr vs, rest)) := by
  obtain ⟨c, t, rfl, hc⟩ := hs
  rw [value.eq_def]
  simp only
  rw [skipSpace_append hw (by simp [isSpace_of_not_badHead hc])]
  split
  · rename_i heq; simp_all [BadHead]
  · rfl

theorem value_object (n : Nat) (hw : Blank ws) (t : List Char) :
    value (n + 1) ('{' :: (ws ++ '"' :: t)) = (do
      let (ms, rest) ← members n ('"' :: t)
      return (.obj (Members.ofList ms), rest)) := by
  rw [value.eq_def]
  simp only
  rw [skipSpace_append hw (by simp [isSpace])]
  split
  · rename_i heq; simp_all
  · rfl

/-- Behind an item and a comma the next items are read. -/
theorem items_comma {n : Nat} (hv : Reads v cs) (hn : 2 * cs.length ≤ n) (h₁ : Blank w₁)
    (h₂ : Blank w₂) (hs : Starts ds) :
    items (n + 1) (cs ++ (w₁ ++ ',' :: (w₂ ++ ds))) = (do
      let (vs, rest) ← items n ds
      return (v :: vs, rest)) := by
  rw [items, hv n _ hn (ends_append h₁ (ends_cons (by simp)))]
  simp only [bind, Except.bind]
  rw [skipSpace_append h₁ (by simp [isSpace])]
  simp only [hs.skipSpace_append h₂]

/-- Behind a name and a colon a value is read. -/
theorem members_colon (ascii : Bool) (name : String) (n : Nat) (hw : Blank ws) (hs : Starts cs) :
    members (n + 1) (memberText ascii name ws cs) = (do
      let (v, rest) ← value n cs
      match skipSpace rest with
      | '}' :: rest' => return ([(name, v)], rest')
      | ',' :: rest' =>
        let (ms, rest'') ← members n (skipSpace rest')
        return ((name, v) :: ms, rest'')
      | rest' => stopAt .expectingComma rest') := by
  have hcolon : skipSpace (':' :: (ws ++ cs)) = ':' :: (ws ++ cs) := rfl
  simp only [memberText, stringText, List.append_assoc, List.cons_append, List.nil_append]
  rw [members]
  simp only [string_stringText, bind, Except.bind, hcolon]
  generalize hskip : skipSpace (ws ++ cs) = t
  obtain rfl : t = cs := hskip.symm.trans (hs.skipSpace_append hw)
  rfl

/-- Behind a member and a comma the next members are read. -/
theorem members_comma (ascii : Bool) (name : String) {n : Nat} (h₁ : Blank w₁) (hv : Reads v cs)
    (hn : 2 * cs.length ≤ n) (h₂ : Blank w₂) (h₃ : Blank w₃) (t : List Char) :
    members (n + 1) (memberText ascii name w₁ (cs ++ (w₂ ++ ',' :: (w₃ ++ '"' :: t)))) = (do
      let (ms, rest) ← members n ('"' :: t)
      return ((name, v) :: ms, rest)) := by
  rw [members_colon ascii name n h₁ (hv.starts.append _),
    hv n _ hn (ends_append h₂ (ends_cons (by simp)))]
  simp only [bind, Except.bind]
  rw [skipSpace_append h₂ (by simp [isSpace])]
  simp only
  rw [skipSpace_append h₃ (by simp [isSpace])]

end

/-! ### Strings, arrays and objects -/

theorem Reads.str (ascii : Bool) (s : String) : Reads (.str s) (stringText ascii s.toList) := by
  intro fuel rest hf _
  obtain ⟨n, rfl⟩ : ∃ n, fuel = n + 1 := ⟨fuel - 1, by simp [stringText] at hf; omega⟩
  simp only [stringText, List.cons_append, List.append_assoc]
  rw [value_string, List.nil_append, string_stringText]
  rfl

theorem ReadsItems.single {v : Json} {cs ws : List Char} (hv : Reads v cs) (hw : Blank ws) :
    ReadsItems [v] (cs ++ (ws ++ [']'])) := by
  intro fuel rest hf
  simp only [List.length_append, List.length_cons, List.length_nil] at hf
  obtain ⟨n, rfl⟩ : ∃ n, fuel = n + 1 := ⟨fuel - 1, by omega⟩
  have hr : Ends (ws ++ ']' :: rest) := ends_append hw (ends_cons (by simp))
  simp only [List.append_assoc, List.singleton_append]
  rw [items, hv n _ (by omega) hr]
  simp only [bind, Except.bind]
  rw [skipSpace_append hw (by simp [isSpace])]
  rfl

theorem ReadsItems.cons {v : Json} {vs : List Json} {cs ds w₁ w₂ : List Char} (hv : Reads v cs)
    (h₁ : Blank w₁) (h₂ : Blank w₂) (hs : ReadsItems vs ds) :
    ReadsItems (v :: vs) (cs ++ (w₁ ++ ',' :: (w₂ ++ ds))) := by
  intro fuel rest hf
  simp only [List.length_append, List.length_cons] at hf
  obtain ⟨n, rfl⟩ : ∃ n, fuel = n + 1 := ⟨fuel - 1, by omega⟩
  simp only [List.append_assoc, List.cons_append]
  rw [items_comma hv (by omega) h₁ h₂ (hs.starts.append rest), hs n rest (by omega)]
  rfl

theorem Reads.arr_nil {ws : List Char} (hw : Blank ws) : Reads (.arr []) ('[' :: (ws ++ [']'])) := by
  intro fuel rest hf _
  obtain ⟨n, rfl⟩ : ∃ n, fuel = n + 1 := ⟨fuel - 1, by simp at hf; omega⟩
  simp only [List.cons_append, List.append_assoc]
  rw [value.eq_def]
  simp only [List.nil_append]
  rw [skipSpace_append hw (by simp [isSpace])]
  rfl

theorem Reads.arr {vs : List Json} {ws ds : List Char} (hw : Blank ws) (hs : ReadsItems vs ds) :
    Reads (.arr vs) ('[' :: (ws ++ ds)) := by
  intro fuel rest hf _
  simp only [List.length_append, List.length_cons] at hf
  obtain ⟨n, rfl⟩ : ∃ n, fuel = n + 1 := ⟨fuel - 1, by omega⟩
  rw [List.cons_append, List.append_assoc, value_array n hw (hs.starts.append rest),
    hs n rest (by omega)]
  rfl

theorem Reads.obj_nil {ws : List Char} (hw : Blank ws) :
    Reads (.obj []) ('{' :: (ws ++ ['}'])) := by
  intro fuel rest hf _
  obtain ⟨n, rfl⟩ : ∃ n, fuel = n + 1 := ⟨fuel - 1, by simp at hf; omega⟩
  simp only [List.cons_append, List.append_assoc]
  rw [value.eq_def]
  simp only [List.nil_append]
  rw [skipSpace_append hw (by simp [isSpace])]
  rfl

theorem ReadsMembers.single (ascii : Bool) (name : String) {v : Json} {cs w₁ w₂ : List Char}
    (h₁ : Blank w₁) (hv : Reads v cs) (h₂ : Blank w₂) :
    ReadsMembers [(name, v)] (memberText ascii name w₁ cs ++ (w₂ ++ ['}'])) := by
  intro fuel rest hf
  simp only [memberText, List.length_append, List.length_cons, List.length_nil] at hf
  obtain ⟨n, rfl⟩ : ∃ n, fuel = n + 1 := ⟨fuel - 1, by omega⟩
  have hr : Ends (w₂ ++ '}' :: rest) := ends_append h₂ (ends_cons (by simp))
  have htext : memberText ascii name w₁ cs ++ (w₂ ++ ['}']) ++ rest =
      memberText ascii name w₁ (cs ++ (w₂ ++ '}' :: rest)) := by
    simp [memberText]
  rw [htext, members_colon ascii name n h₁ (hv.starts.append _), hv n _ (by omega) hr]
  simp only [bind, Except.bind]
  rw [skipSpace_append h₂ (by simp [isSpace])]
  rfl

theorem ReadsMembers.head {ms : List (String × Json)} {cs : List Char} (h : ReadsMembers ms cs) :
    ∃ t, cs = '"' :: t := by
  have h0 := h (2 * cs.length) [] (Nat.le_refl _)
  rw [List.append_nil] at h0
  cases cs with
  | nil => cases h0
  | cons c t =>
    rw [show 2 * (c :: t).length = 2 * t.length + 1 + 1 by simp; omega, members.eq_def] at h0
    simp only at h0
    split at h0
    · rename_i heq
      exact ⟨_, heq⟩
    · cases h0

theorem ReadsMembers.cons (ascii : Bool) (name : String) {v : Json} {ms : List (String × Json)}
    {cs ds w₁ w₂ w₃ : List Char} (h₁ : Blank w₁) (hv : Reads v cs) (h₂ : Blank w₂)
    (h₃ : Blank w₃) (hs : ReadsMembers ms ds) :
    ReadsMembers ((name, v) :: ms) (memberText ascii name w₁ cs ++ (w₂ ++ ',' :: (w₃ ++ ds))) := by
  intro fuel rest hf
  simp only [memberText, List.length_append, List.length_cons] at hf
  obtain ⟨n, rfl⟩ : ∃ n, fuel = n + 1 := ⟨fuel - 1, by omega⟩
  obtain ⟨t, rfl⟩ := hs.head
  have htext : memberText ascii name w₁ cs ++ (w₂ ++ ',' :: (w₃ ++ '"' :: t)) ++ rest =
      memberText ascii name w₁ (cs ++ (w₂ ++ ',' :: (w₃ ++ '"' :: (t ++ rest)))) := by
    simp [memberText]
  rw [htext, members_comma ascii name h₁ hv (by omega) h₂ h₃, ← List.cons_append,
    hs n rest (by omega)]
  rfl

theorem Reads.obj {ms : List (String × Json)} {ws ds : List Char} (hw : Blank ws)
    (hs : ReadsMembers ms ds) : Reads (.obj (Members.ofList ms)) ('{' :: (ws ++ ds)) := by
  intro fuel rest hf _
  simp only [List.length_append, List.length_cons] at hf
  obtain ⟨n, rfl⟩ : ∃ n, fuel = n + 1 := ⟨fuel - 1, by omega⟩
  obtain ⟨t, rfl⟩ := hs.head
  rw [List.cons_append, List.append_assoc, List.cons_append, value_object n hw,
    ← List.cons_append, hs n rest (by omega)]
  rfl

/-! ### Lists -/

section
variable {α : Type} {w₁ w₂ w₃ : List Char}

theorem ReadsItems.intercalate {val : α → Json} {text : α → List Char} (h₁ : Blank w₁)
    (h₂ : Blank w₂) {a : α} {as : List α} (h : ∀ x ∈ a :: as, Reads (val x) (text x)) :
    ReadsItems ((a :: as).map val)
      ((',' :: w₁).intercalate ((a :: as).map text) ++ (w₂ ++ [']'])) := by
  induction as generalizing a with
  | nil => simpa using ReadsItems.single (h a (by simp)) h₂
  | cons b as ih =>
    have hs := ih (a := b) fun x hx => h x (by simp_all)
    have := ReadsItems.cons (h a (by simp)) blank_nil h₁ hs
    simpa [List.intercalate] using this

theorem ReadsMembers.intercalate (name : α → String) {val : α → Json} {text : α → List Char}
    (ascii : Bool) (h₁ : Blank w₁) (h₂ : Blank w₂) (h₃ : Blank w₃) {a : α} {as : List α}
    (h : ∀ x ∈ a :: as, Reads (val x) (text x)) :
    ReadsMembers ((a :: as).map fun x => (name x, val x))
      ((',' :: w₁).intercalate ((a :: as).map fun x => memberText ascii (name x) w₃ (text x)) ++
        (w₂ ++ ['}'])) := by
  induction as generalizing a with
  | nil => simpa using ReadsMembers.single ascii (name a) h₃ (h a (by simp)) h₂
  | cons b as ih =>
    have hs := ih (a := b) fun x hx => h x (by simp_all)
    have := ReadsMembers.cons ascii (name a) h₃ (h a (by simp)) blank_nil h₁ hs
    simpa [List.intercalate] using this

end

end SymbolIndex.Json
