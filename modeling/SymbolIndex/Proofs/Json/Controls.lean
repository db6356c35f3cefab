import SymbolIndex.Proofs.Json.RoundTrip
import SymbolIndex.Proofs.Text.Lines

/-!
# The characters of written values

A value is written with printable characters of ASCII and with those of its strings and names
(`Texts.only_compact`). Control characters of a string stand as escapes, so a document has one
line end, which ends it (`Writable.unify_compact`).
-/

namespace SymbolIndex.Json

/-- All characters of a text meet a condition. -/
def Only (p : Char → Prop) (cs : List Char) : Prop := ∀ c ∈ cs, p c

/-- A character of ASCII that is no control character. -/
def Printable (c : Char) : Prop := 0x20 ≤ c.toNat ∧ c.toNat < 0x7f

instance : DecidablePred Printable := fun _ => instDecidableAnd

section
variable {p q : Char → Prop} {cs ds : List Char} {c : Char}

theorem only_nil : Only p [] := List.forall_mem_nil _

theorem Only.cons (hc : p c) (h : Only p cs) : Only p (c :: cs) := List.forall_mem_cons.2 ⟨hc, h⟩

theorem Only.append (h : Only p cs) (h' : Only p ds) : Only p (cs ++ ds) :=
  List.forall_mem_append.2 ⟨h, h'⟩

theorem only_replicate (hc : p c) (n : Nat) : Only p (List.replicate n c) := by
  intro d hd
  rwa [List.eq_of_mem_replicate hd]

theorem Only.mono (h : Only p cs) (hpq : ∀ c, p c → q c) : Only q cs := fun c hc => hpq c (h c hc)

theorem Only.intercalate {sep : List Char} {parts : List (List Char)} (hs : Only p sep)
    (h : ∀ part ∈ parts, Only p part) : Only p (sep.intercalate parts) := by
  intro c hc
  rcases Text.Lines.mem_of_mem_intercalate hc with hc | ⟨part, hpart, hc⟩
  · exact hs c hc
  · exact h part hpart c hc

theorem printable_of_all (h : cs.all (fun c => decide (Printable c)) = true) :
    Only Printable cs := by
  simpa [Only] using h

end

/-! ### Numbers and words -/

theorem printable_toDigits (n : Nat) : Only Printable (Nat.toDigits 10 n) := by
  intro c hc
  have hd := isDigit_of_mem_toDigits c hc
  rw [Char.isDigit_iff_toNat] at hd
  have hzero : '0'.toNat = 48 := rfl
  have hnine : '9'.toNat = 57 := rfl
  exact ⟨by omega, by omega⟩

theorem printable_intText (n : Int) : Only Printable (intText n) := by
  unfold intText
  split
  · exact .cons (by decide) (printable_toDigits _)
  · exact printable_toDigits _

theorem printable_zeros (n : Nat) : Only Printable (List.replicate n '0') :=
  only_replicate (by decide) n

theorem printable_decimalText (d : Number.Decimal) :
    Only Printable (Number.Binary64.decimalText d) := by
  have hpoint : Printable '.' := by decide
  have hdigits := printable_toDigits d.digits
  unfold Number.Binary64.decimalText
  dsimp only
  generalize Nat.toDigits 10 d.digits = ds at hdigits ⊢
  split
  · split
    · exact .append (.cons (by decide) (.cons hpoint (printable_zeros _))) hdigits
    split
    · exact .append (hdigits.append (printable_zeros _)) (printable_of_all rfl)
    · exact .append (fun c hc => hdigits c (List.mem_of_mem_take hc))
        (.cons hpoint fun c hc => hdigits c (List.mem_of_mem_drop hc))
  · refine .append ?_ (.cons (by decide) (.cons ?_ (.append (printable_zeros _)
      (printable_toDigits _))))
    · split
      · exact only_nil
      · exact hdigits
      · obtain ⟨hfirst, hrest⟩ := List.forall_mem_cons.1 hdigits
        exact .cons hfirst (.cons hpoint hrest)
    · split <;> decide

theorem printable_finiteText (negative : Bool) (m e : Nat) :
    Only Printable (Number.Binary64.finiteText negative m e) := by
  have hbody : Only Printable (if m = 0 then ['0', '.', '0'] else
      let d := Number.Binary64.shortest m e
      Number.Binary64.decimalText
        (Number.Binary64.trimZeros (Number.Binary64.decimalLength d.digits) d)) := by
    split
    · exact printable_of_all rfl
    · exact printable_decimalText _
  unfold Number.Binary64.finiteText
  dsimp only at hbody ⊢
  split
  · exact .cons (by decide) hbody
  · exact hbody

theorem printable_floatText (x : Number.Binary64) : Only Printable (floatText x) := by
  unfold floatText
  split
  · exact printable_finiteText _ _ _
  · exact printable_of_all rfl
  · exact printable_of_all rfl
  · exact printable_of_all rfl

theorem printable_boolText (b : Bool) : Only Printable (boolText b) := by
  cases b <;> exact printable_of_all rfl

/-! ### Strings -/

theorem printable_hex (width n : Nat) : Only Printable (Text.hex width n) := by
  have hdigit : ∀ d < 16, 0x20 ≤ (Text.hexDigit d).toNat ∧ (Text.hexDigit d).toNat < 0x7f := by
    decide
  induction width generalizing n with
  | zero => exact only_nil
  | succ width ih =>
    exact (ih _).append (.cons (hdigit _ (Nat.mod_lt _ (by decide))) only_nil)

theorem printable_codeEscape (n : Nat) : Only Printable (codeEscape n) :=
  .cons (by decide) (.cons (by decide) (printable_hex 4 n))

theorem printable_of_simpleEscape? {e c : Char} (h : simpleEscape? e = some c) : Printable e := by
  unfold simpleEscape? at h
  split at h <;> first | decide | cases h

variable {p : Char → Prop}

/-- Control characters and quotes are escaped; other characters stand as they are, or, with
`ascii`, as escapes. -/
theorem only_escapeChar (hp : ∀ c, Printable c → p c) (ascii : Bool) {c : Char}
    (hc : 0x20 ≤ c.toNat → p c) : Only p (escapeChar ascii c) := by
  have hescaped := escaped_escapeChar ascii c
  generalize escapeChar ascii c = text at hescaped
  cases hescaped with
  | simple _ h _ => exact .cons (hp _ (by decide)) (.cons (hp _ (printable_of_simpleEscape? h)) only_nil)
  | code _ _ => exact (printable_codeEscape _).mono hp
  | pair _ _ => exact ((printable_codeEscape _).append (printable_codeEscape _)).mono hp
  | plain _ _ hlow _ => exact .cons (hc (Nat.not_lt.1 hlow)) only_nil

/-- From DEL on, characters stand as they are if they need not be ASCII. -/
theorem escapeChar_of_high {c : Char} (hc : 0x7f ≤ c.toNat) : escapeChar false c = [c] := by
  have hescaped := escaped_escapeChar false c
  generalize escapeChar false c = text at hescaped
  cases hescaped with
  | simple _ _ hlow => omega
  | code _ hlow => rcases hlow with hlow | ha <;> [omega; cases ha]
  | pair ha _ => cases ha
  | plain _ _ _ _ => rfl

theorem only_stringText (hp : ∀ c, Printable c → p c) (ascii : Bool) {s : List Char}
    (hs : ∀ c ∈ s, 0x20 ≤ c.toNat → p c) : Only p (stringText ascii s) := by
  have hquote : p '"' := hp _ (by decide)
  refine .append (.cons hquote fun c hc => ?_) (.cons hquote only_nil)
  obtain ⟨d, hd, hmem⟩ := List.mem_flatMap.1 hc
  exact only_escapeChar hp ascii (hs d hd) c hmem

/-! ### Values -/

/-- The characters of all strings and names of a value meet a condition, except for control
characters below 0x20. -/
inductive Texts (p : Char → Prop) : Json → Prop where
  | null : Texts p .null
  | bool (b : Bool) : Texts p (.bool b)
  | int (n : Int) : Texts p (.int n)
  | float (x : Number.Binary64) : Texts p (.float x)
  | str {s : String} (h : ∀ c ∈ s.toList, 0x20 ≤ c.toNat → p c) : Texts p (.str s)
  | arr {vs : List Json} (h : ∀ v ∈ vs, Texts p v) : Texts p (.arr vs)
  | obj {ms : Members} (hn : ∀ m ∈ ms, ∀ c ∈ m.1.toList, 0x20 ≤ c.toNat → p c)
    (h : ∀ m ∈ ms, Texts p m.2) : Texts p (.obj ms)

theorem texts_str_iff {s : String} :
    Texts p (.str s) ↔ ∀ c ∈ s.toList, 0x20 ≤ c.toNat → p c := by
  refine ⟨fun h => ?_, .str⟩
  cases h
  assumption

theorem texts_arr_iff {vs : List Json} : Texts p (.arr vs) ↔ ∀ v ∈ vs, Texts p v := by
  refine ⟨fun h => ?_, .arr⟩
  cases h
  assumption

theorem texts_obj_iff {ms : Members} : Texts p (.obj ms) ↔
    ∀ m ∈ ms, (∀ c ∈ m.1.toList, 0x20 ≤ c.toNat → p c) ∧ Texts p m.2 := by
  refine ⟨fun h => ?_, fun h => .obj (fun m hm => (h m hm).1) fun m hm => (h m hm).2⟩
  cases h with
  | obj hn h => exact fun m hm => ⟨hn m hm, h m hm⟩

theorem Texts.mono {q : Char → Prop} {v : Json} (h : Texts p v)
    (hpq : ∀ c, 0x20 ≤ c.toNat → p c → q c) : Texts q v := by
  induction h with
  | null => exact .null
  | bool b => exact .bool b
  | int n => exact .int n
  | float x => exact .float x
  | str hs => exact .str fun c hc hlow => hpq c hlow (hs c hc hlow)
  | arr _ ih => exact .arr ih
  | obj hn _ ih => exact .obj (fun m hm c hc hlow => hpq c hlow (hn m hm c hc hlow)) ih

theorem Writable.texts {v : Json} (h : Writable v) (hp : ∀ c, 0x20 ≤ c.toNat → p c) :
    Texts p v := by
  induction h with
  | null => exact .null
  | bool b => exact .bool b
  | int _ => exact .int _
  | float _ => exact .float _
  | str s => exact .str fun c _ => hp c
  | arr _ ih => exact .arr ih
  | obj _ ih => exact .obj (fun _ _ c _ => hp c) ih

theorem Texts.only_compact {v : Json} (h : Texts p v) (hp : ∀ c, Printable c → p c) :
    Only p (compact v) := by
  have hcomma : Only p [','] := .cons (hp _ (by decide)) only_nil
  induction h with
  | null => exact Only.mono (printable_of_all rfl) hp
  | bool b => exact (printable_boolText b).mono hp
  | int n => exact (printable_intText n).mono hp
  | float x => exact (printable_floatText x).mono hp
  | str hs => exact only_stringText hp false hs
  | @arr vs _ ih =>
    rw [compact, compactItems_eq]
    refine .append (.cons (hp _ (by decide)) (hcomma.intercalate fun part hpart => ?_))
      (.cons (hp _ (by decide)) only_nil)
    obtain ⟨v, hv, rfl⟩ := List.mem_map.1 hpart
    exact ih v hv
  | @obj ms hn _ ih =>
    rw [compact, compactMembers_sort, List.map_map]
    refine .append (.cons (hp _ (by decide)) (hcomma.intercalate fun part hpart => ?_))
      (.cons (hp _ (by decide)) only_nil)
    obtain ⟨m, hm, rfl⟩ := List.mem_map.1 hpart
    have hmem := (sortByName_perm ms).mem_iff.1 hm
    exact (only_stringText hp false (hn m hmem)).append (.cons (hp _ (by decide)) (ih m hmem))

/-! ### Line ends -/

/-- Without a carriage return, the line ends of a text are line feeds already. -/
theorem unify_of_only {cs : List Char} (h : Only p cs) (hreturn : ¬ p '\r') :
    Text.Lines.unify (cs ++ ['\n']) = cs ++ ['\n'] := by
  apply Text.Lines.unify_of_not_mem
  intro hr
  rcases List.mem_append.1 hr with hr | hr
  · exact hreturn (h _ hr)
  · exact absurd (List.mem_singleton.1 hr) (by decide)

/-- The line end of a written value is a line feed already. -/
theorem Writable.unify_compact {v : Json} (h : Writable v) :
    Text.Lines.unify (compact v ++ ['\n']) = compact v ++ ['\n'] := by
  have honly : Only (fun c => 0x20 ≤ c.toNat) (compact v) :=
    (h.texts fun _ => id).only_compact fun _ hc => hc.1
  exact unify_of_only honly (by decide)

end SymbolIndex.Json
