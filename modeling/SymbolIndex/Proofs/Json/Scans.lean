import Mathlib.Data.List.Infix
import Mathlib.Data.List.TakeWhile
import SymbolIndex.Json.Reader
import SymbolIndex.Proofs.Except

/-!
# Where the reader can stop

`Scans s r` says that a function of the reader, given the text `s`, left an end of it, or stopped
at a place, or stopped at a whole number that is too long, and then `s` has a run of that many
digits. There is one lemma for each function, so a text without such a run is read or refused as
malformed (`isMalformed_or_longRun`).
-/

namespace SymbolIndex.Text.Numeral

/-- A text has a run of digits that is too long for a whole number. -/
def LongRun (s : List Char) : Prop :=
  ∃ ds, ds <:+: s ∧ maxDigits < ds.length ∧ ∀ c ∈ ds, c.isDigit = true

variable {s t : List Char}

theorem LongRun.mono (h : LongRun s) (hs : s <:+: t) : LongRun t := by
  obtain ⟨ds, hds, hlong⟩ := h
  exact ⟨ds, hds.trans hs, hlong⟩

theorem not_longRun_of_short (h : s.length ≤ maxDigits) : ¬ LongRun s := by
  rintro ⟨ds, hds, hlong, _⟩
  have hlen := hds.length_le
  omega

end SymbolIndex.Text.Numeral

namespace SymbolIndex.Json

open Text.Numeral

variable {α β : Type} {s t rest : List Char}

/-- What reading a text may lead to. -/
def Scans (s : List Char) : Except Stop (α × List Char) → Prop
  | .ok (_, rest) => rest <:+ s
  | .error (.at ..) => True
  | .error (.hugeInteger _) => LongRun s

theorem scans_stopAt (problem : Problem) (rest : List Char) :
    Scans s (stopAt problem rest : Except Stop (α × List Char)) := trivial

theorem Scans.mono {r : Except Stop (α × List Char)} (h : Scans s r) (hs : s <:+ t) : Scans t r := by
  match r, h with
  | .ok (_, rest), h => exact List.IsSuffix.trans h hs
  | .error (.at ..), _ => trivial
  | .error (.hugeInteger _), h => exact LongRun.mono h hs.isInfix

theorem Scans.bind {x : Except Stop (α × List Char)} {f : α × List Char → Except Stop (β × List Char)}
    (hx : Scans s x) (hf : ∀ a rest, rest <:+ s → Scans rest (f (a, rest))) :
    Scans s (x >>= f) := by
  match x, hx with
  | .ok (a, rest), hx => exact (hf a rest hx).mono hx
  | .error (.at ..), _ => trivial
  | .error (.hugeInteger _), hx => exact hx

/-- A value that is put together from what was read. -/
theorem Scans.map {x : Except Stop (α × List Char)} (hx : Scans s x) (f : α → β) :
    Scans s (do let (a, rest) ← x; return (f a, rest)) :=
  hx.bind fun _ _ _ => List.suffix_rfl

theorem skipSpace_suffix (s : List Char) : skipSpace s <:+ s := List.dropWhile_suffix _

/-! ### Strings -/

theorem scans_stringUnits (whole s : List Char) : Scans s (stringUnits whole s) := by
  fun_induction stringUnits whole s with
  | case1 => exact scans_stopAt _ _
  | case2 rest => exact List.suffix_cons _ _
  | case3 a b c d head tail unit hunit ih =>
    exact (ih.map (unit :: ·)).mono ⟨['\\', 'u', a, b, c, d], rfl⟩
  | case4 => exact scans_stopAt _ _
  | case5 => exact scans_stopAt _ _
  | case6 e rest _ _ c _ ih => exact (ih.map (c.toNat :: ·)).mono ⟨['\\', e], rfl⟩
  | case7 => exact scans_stopAt _ _
  | case8 => exact scans_stopAt _ _
  | case9 => exact scans_stopAt _ _
  | case10 c rest _ _ _ _ _ _ ih => exact (ih.map (c.toNat :: ·)).mono (List.suffix_cons c rest)

theorem scans_stringPoints (s : List Char) : Scans s (stringPoints s) :=
  (scans_stringUnits ('"' :: s) s).map joinUnits

theorem scans_string (s : List Char) : Scans s (string s) :=
  (scans_stringPoints s).map fun points => String.ofList (points.map Text.Utf8.CodePoint.toChar)

/-! ### Numbers -/

theorem digits_suffix (s : List Char) : (digits s).2 <:+ s := List.dropWhile_suffix _

theorem longRun_of_digits (h : maxDigits < (digits s).1.length) : LongRun s :=
  ⟨(digits s).1, (List.takeWhile_prefix _).isInfix, h, fun _ hc => List.mem_takeWhile_imp hc⟩

theorem wholePart?_eq_some {whole : List Char} (h : wholePart? s = some (whole, rest)) :
    rest <:+ s ∧ (maxDigits < whole.length → LongRun s) := by
  unfold wholePart? at h
  split at h
  · cases h
  · cases h
    exact ⟨List.suffix_cons _ _, fun hlong => absurd hlong (by decide)⟩
  · split at h
    · have hpair := Option.some.inj h
      have hwhole := congrArg Prod.fst hpair
      have hrest := congrArg Prod.snd hpair
      dsimp only at hwhole hrest
      subst hwhole hrest
      exact ⟨digits_suffix _, longRun_of_digits⟩
    · cases h

theorem fraction_suffix (s : List Char) : (fraction s).2 <:+ s := by
  unfold fraction
  split
  · split
    · exact List.suffix_rfl
    · exact (digits_suffix _).trans (List.suffix_cons _ _)
  · exact List.suffix_rfl

theorem signed_suffix (s : List Char) : (signed s).2 <:+ s := by
  unfold signed
  split
  · exact List.suffix_cons _ _
  · exact List.suffix_cons _ _
  · exact List.suffix_rfl

theorem exponent?_suffix {n : Int} (h : exponent? s = some (n, rest)) : rest <:+ s := by
  unfold exponent? at h
  split at h
  · cases h
  · rename_i e body
    split at h
    · dsimp only at h
      split at h
      · cases h
      · cases h
        exact ((digits_suffix _).trans (signed_suffix _)).trans (List.suffix_cons _ _)
    · cases h

theorem scans_number? {negative : Bool} {r : Except Stop (Json × List Char)}
    (h : number? negative s = some r) : Scans s r := by
  unfold number? at h
  obtain ⟨⟨whole, rest⟩, hwhole, h⟩ := Option.bind_eq_some_iff.1 h
  obtain ⟨hrest, hlong⟩ := wholePart?_eq_some hwhole
  have hfraction := (fraction_suffix rest).trans hrest
  dsimp only at h
  split at h
  · rename_i he
    cases h
    exact (exponent?_suffix he).trans hfraction
  · split at h
    · split at h
      · cases h
        exact hlong ‹_›
      · cases h
        exact hfraction
    · cases h
      exact hfraction

theorem scans_getD_number? {negative : Bool} (problem : Problem) (whole : List Char)
    (hs : s <:+ t) : Scans t ((number? negative s).getD (stopAt problem whole)) := by
  cases h : number? negative s with
  | none => exact scans_stopAt _ _
  | some r => exact (scans_number? h).mono hs

/-! ### Values -/

theorem scans_scalar (s : List Char) : Scans s (scalar s) := by
  unfold scalar
  split
  case h_1 rest => exact ⟨"null".toList, rfl⟩
  case h_2 rest => exact ⟨"true".toList, rfl⟩
  case h_3 rest => exact ⟨"false".toList, rfl⟩
  case h_4 rest => exact ⟨"NaN".toList, rfl⟩
  case h_5 rest => exact ⟨"Infinity".toList, rfl⟩
  case h_6 rest => exact ⟨"-Infinity".toList, rfl⟩
  case h_7 rest => exact scans_getD_number? _ _ (List.suffix_cons _ _)
  case h_8 => exact scans_getD_number? _ _ List.suffix_rfl

/-- The three functions that call each other, by induction on the fuel they share. -/
theorem scans_values (fuel : Nat) : ∀ s, Scans s (value fuel s) ∧ Scans s (items fuel s) ∧
    Scans s (members fuel s) := by
  induction fuel with
  | zero =>
    intro s
    refine ⟨?_, ?_, ?_⟩
    · rw [value]; exact scans_stopAt _ _
    · rw [items]; exact scans_stopAt _ _
    · rw [members]; exact scans_stopAt _ _
  | succ fuel ih =>
    intro s
    refine ⟨?_, ?_, ?_⟩
    · rw [value.eq_def]
      dsimp only
      split
      · exact ((scans_string _).map Json.str).mono (List.suffix_cons _ _)
      · rename_i rest
        have hrest := (skipSpace_suffix rest).trans (List.suffix_cons '[' rest)
        split
        · rename_i rest' heq
          rw [heq] at hrest
          exact (List.suffix_cons _ _).trans hrest
        · exact ((ih _).2.1.map Json.arr).mono hrest
      · rename_i rest
        have hrest := (skipSpace_suffix rest).trans (List.suffix_cons '{' rest)
        split
        · rename_i rest' heq
          rw [heq] at hrest
          exact (List.suffix_cons _ _).trans hrest
        · exact ((ih _).2.2.map fun ms => Json.obj (Members.ofList ms)).mono hrest
      · exact scans_scalar s
    · rw [items]
      refine (ih s).1.bind fun v rest _ => ?_
      have hrest := skipSpace_suffix rest
      dsimp only
      split
      · rename_i rest' heq
        rw [heq] at hrest
        exact (List.suffix_cons _ _).trans hrest
      · rename_i rest' heq
        rw [heq] at hrest
        exact ((ih _).2.1.map (v :: ·)).mono
          (((skipSpace_suffix rest').trans (List.suffix_cons _ _)).trans hrest)
      · exact scans_stopAt _ _
    · rw [members.eq_def]
      dsimp only
      split
      · refine ((scans_string _).mono (List.suffix_cons _ _)).bind fun name rest _ => ?_
        have hrest := skipSpace_suffix rest
        dsimp only
        split
        · rename_i rest' heq
          rw [heq] at hrest
          refine ((ih _).1.mono (((skipSpace_suffix rest').trans (List.suffix_cons _ _)).trans
            hrest)).bind fun v rest'' _ => ?_
          have hrest'' := skipSpace_suffix rest''
          dsimp only
          split
          · rename_i last heq'
            rw [heq'] at hrest''
            exact (List.suffix_cons _ _).trans hrest''
          · rename_i last heq'
            rw [heq'] at hrest''
            exact ((ih _).2.2.map ((name, v) :: ·)).mono
              (((skipSpace_suffix last).trans (List.suffix_cons _ _)).trans hrest'')
          · exact scans_stopAt _ _
        · exact scans_stopAt _ _
      · exact scans_stopAt _ _

/-! ### Texts -/

theorem longRun_of_document {n : Nat} (h : document s = .error (.hugeInteger n)) : LongRun s := by
  have hscans := (scans_values (2 * s.length + 2) (skipSpace s)).1.mono (skipSpace_suffix s)
  unfold document at h
  rcases bind_eq_error.1 h with hvalue | ⟨_, _, h⟩
  · rw [hvalue] at hscans
    exact hscans
  · dsimp only at h
    split at h <;> cases h

/-- A text that cannot be read is malformed, or has a number that is too long. -/
theorem isMalformed_or_longRun {e : ReadError} (h : read s = .error e) :
    e.isMalformed = true ∨ LongRun s := by
  unfold read at h
  split at h
  · cases h
    exact .inl rfl
  · cases hd : document s with
    | ok v =>
      rw [hd] at h
      cases h
    | error stop =>
      rw [hd] at h
      cases h
      cases stop with
      | «at» problem left => exact .inl rfl
      | hugeInteger n => exact .inr (longRun_of_document hd)

end SymbolIndex.Json
