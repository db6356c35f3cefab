import SymbolIndex.Key.Escape
import SymbolIndex.Proofs.Key.Normal
import SymbolIndex.Proofs.Text.Ascii
import SymbolIndex.Proofs.Text.Utf8

/-!
# Escaped keys are read back

Unescaping gives back the bytes of the key, one character after the other, so it gives the key in
lower case. An escaped key consists of lower-case letters, digits and `_`.
-/

namespace SymbolIndex.Key

open Text

variable {c : Char}

theorem isUpper_hexDigit : ∀ n < 16, (hexDigit n).isUpper = false := by decide

theorem byte?_hexDigit (b : UInt8) :
    byte? (hexDigit (b.toNat / 16 % 16)) (hexDigit (b.toNat % 16)) = some b := by
  have hb : b.toNat < 256 := b.toNat_lt_size
  have hmod : ∀ n, n % 16 < 16 := fun n => Nat.mod_lt n (by decide)
  rw [byte?, isUpper_hexDigit _ (hmod _), isUpper_hexDigit _ (hmod _),
    hexValue?_hexDigit _ (hmod _), hexValue?_hexDigit _ (hmod _)]
  simp only [Bool.or_self, Bool.false_eq_true, if_false, Option.bind_eq_bind, Option.bind_some,
    Option.pure_def, Option.some.injEq]
  rw [show b.toNat / 16 % 16 * 16 + b.toNat % 16 = b.toNat by omega, UInt8.ofNat_toNat]

theorem escapeByte_eq (b : UInt8) :
    escapeByte b = ['_', hexDigit (b.toNat / 16 % 16), hexDigit (b.toNat % 16)] := rfl

theorem unescapeBytes_escapeByte (b : UInt8) (rest : List Char) :
    unescapeBytes (escapeByte b ++ rest) = b :: unescapeBytes rest := by
  rw [escapeByte_eq, List.cons_append, List.cons_append, List.cons_append, List.nil_append,
    unescapeBytes, byte?_hexDigit]

theorem unescapeBytes_flatMap_escapeByte (bytes : List UInt8) (rest : List Char) :
    unescapeBytes (bytes.flatMap escapeByte ++ rest) = bytes ++ unescapeBytes rest := by
  induction bytes with
  | nil => rfl
  | cons b bytes ih =>
    rw [List.flatMap_cons, List.append_assoc, unescapeBytes_escapeByte, ih, List.cons_append]

theorem unescapeBytes_of_ne (h : c ≠ '_') (rest : List Char) :
    unescapeBytes (c :: rest) = Utf8.encodeChar c ++ unescapeBytes rest := by
  rw [unescapeBytes]
  rintro a b rest rfl
  exact absurd rfl h

theorem toLower_of_not_isAlphanum (h : ¬ c.isAlphanum = true) : c.toLower = c :=
  toLower_of_not_isUpper fun hupper => h (isAlphanum_iff.2 (.inl hupper))

theorem isLower_or_isDigit_toLower (h : c.isAlphanum = true) :
    c.toLower.isLower = true ∨ c.toLower.isDigit = true := by
  have hascii : ∀ c : Char, c.toNat < 128 → c.isAlphanum = true →
      c.toLower.isLower = true ∨ c.toLower.isDigit = true :=
    of_ascii (by decide +kernel)
  exact hascii c (toNat_lt_of_isAlphanum h) h

theorem unescapeBytes_escapeChar (c : Char) (rest : List Char) :
    unescapeBytes (escapeChar c ++ rest) = Utf8.encodeChar c.toLower ++ unescapeBytes rest := by
  rw [escapeChar]
  split
  · rename_i hc
    apply unescapeBytes_of_ne
    intro hlow
    have := isLower_or_isDigit_toLower hc
    rw [hlow] at this
    exact absurd this (by decide)
  · rename_i hc
    rw [unescapeBytes_flatMap_escapeByte, toLower_of_not_isAlphanum hc]

theorem unescapeBytes_escape (s : List Char) :
    unescapeBytes (s.flatMap escapeChar) = Utf8.encode (s.map Char.toLower) := by
  induction s with
  | nil => rfl
  | cons c s ih =>
    rw [List.flatMap_cons, unescapeBytes_escapeChar, ih]
    rfl

theorem unescape_escape (key : String) : unescape (escape key) = key.toLower := by
  rw [unescape, escape, String.toList_ofList, unescapeBytes_escape, Utf8.decodeLossy_encode,
    ← String.toList_map, String.ofList_toList]
  rfl

/-! ### The alphabet of escaped keys -/

/-- The characters of escaped keys. -/
def isEscapedChar (c : Char) : Bool := c.isLower || c.isDigit || c == '_'

theorem isEscapedChar_hexDigit : ∀ n < 16, isEscapedChar (hexDigit n) = true := by decide

theorem isEscapedChar_of_mem_escape {key : String} (h : c ∈ (escape key).toList) :
    isEscapedChar c = true := by
  rw [escape, String.toList_ofList, List.mem_flatMap] at h
  obtain ⟨d, _, h⟩ := h
  rw [escapeChar] at h
  split at h
  · rename_i hd
    rw [List.mem_singleton] at h
    subst h
    rw [isEscapedChar, Bool.or_eq_true, Bool.or_eq_true]
    exact .inl (isLower_or_isDigit_toLower hd)
  · obtain ⟨b, _, h⟩ := List.mem_flatMap.1 h
    simp only [escapeByte_eq, List.mem_cons, List.not_mem_nil, or_false] at h
    rcases h with rfl | rfl | rfl
    · decide
    · exact isEscapedChar_hexDigit _ (Nat.mod_lt _ (by decide))
    · exact isEscapedChar_hexDigit _ (Nat.mod_lt _ (by decide))

def escapedAlphabet : List Char := "abcdefghijklmnopqrstuvwxyz0123456789_".toList

theorem mem_escapedAlphabet (h : isEscapedChar c = true) : c ∈ escapedAlphabet := by
  have hascii : ∀ c : Char, c.toNat < 128 → isEscapedChar c = true → c ∈ escapedAlphabet :=
    of_ascii (by decide +kernel)
  have hc : c.toNat < 128 := by
    simp only [isEscapedChar, Bool.or_eq_true, beq_iff_eq, isLower_iff_toNat,
      isDigit_iff_toNat] at h
    rcases h with (h | h) | rfl
    · omega
    · omega
    · decide
  exact hascii c hc h

/-! ### Keys without bytes -/

/-- What has no bytes is a surrogate. -/
theorem unencodable?_eq_none_iff {place : Nat} {points : List Utf8.CodePoint} :
    unencodable? place points = none ↔ ∀ code, Utf8.CodePoint.surrogate code ∉ points := by
  fun_induction unencodable? place points with
  | case1 => simp
  | case2 place code rest =>
    constructor
    · nofun
    · exact fun h => absurd List.mem_cons_self (h code)
  | case3 place a b rest byte _ ih => simpa using ih
  | case4 place a b rest _ ih => simpa using ih
  | case5 place c rest _ ih => simpa using ih

/-! ### Keys with one escaped form -/

theorem escapeChar_toLower (c : Char) : escapeChar c.toLower = escapeChar c := by
  by_cases h : c.isAlphanum = true
  · have hascii : ∀ c : Char, c.toNat < 128 → c.isAlphanum = true →
        escapeChar c.toLower = escapeChar c :=
      of_ascii (by decide +kernel)
    exact hascii c (toNat_lt_of_isAlphanum h) h
  · rw [toLower_of_not_isAlphanum h]

theorem escape_toLower (key : String) : escape key.toLower = escape key := by
  have hlist : key.toLower.toList = key.toList.map Char.toLower := String.toList_map
  rw [escape, escape, hlist, List.flatMap_map]
  simp only [escapeChar_toLower]

/-- Keys have one escaped form exactly if they differ in nothing but ASCII case. -/
theorem escape_eq_escape_iff {a b : String} : escape a = escape b ↔ a.toLower = b.toLower := by
  constructor
  · intro h
    rw [← unescape_escape, h, unescape_escape]
  · intro h
    rw [← escape_toLower, h, escape_toLower]

/-- An escaped key is made of lower-case letters, digits and `_`, and unescaping it gives the key
with its ASCII capitals lowered. So keys without capitals, all normal keys among them, have
different escaped forms, also when they spell out an escape. -/
theorem escape_invertible :
    (∀ key, (escape key).toList ⊆ escapedAlphabet) ∧
    (∀ key, unescape (escape key) = key.toLower) ∧
    (∀ a b, escape a = escape b ↔ a.toLower = b.toLower) ∧
    (∀ a b : String, (∀ c ∈ a.toList, ¬ c.isUpper = true) → (∀ c ∈ b.toList, ¬ c.isUpper = true) →
      escape a = escape b → a = b) ∧
    ∀ a b, escape (normalize a) = escape (normalize b) → normalize a = normalize b := by
  refine ⟨fun key c hc => mem_escapedAlphabet (isEscapedChar_of_mem_escape hc), unescape_escape,
    fun a b => escape_eq_escape_iff, fun a b ha hb h => ?_, fun a b h => ?_⟩
  · have hlower := escape_eq_escape_iff.1 h
    rwa [toLower_of_forall ha, toLower_of_forall hb] at hlower
  · have hlower := escape_eq_escape_iff.1 h
    rwa [toLower_normalize, toLower_normalize] at hlower

/-- A key that spells out the escape of another one. -/
theorem escape_invertible_lookalike :
    (∀ c ∈ "_".toList, ¬ c.isUpper = true) ∧ (∀ c ∈ "_5f".toList, ¬ c.isUpper = true) ∧
    escape "_" = "_5f" ∧ escape "_5f" ≠ escape "_" ∧ unescape (escape "_5fÄ") = "_5fÄ" := by
  have hone : ∀ c ∈ "_".toList, ¬ c.isUpper = true := by simp
  have hother : ∀ c ∈ "_5f".toList, ¬ c.isUpper = true := by simp
  obtain ⟨-, hback, -, hinjective, -⟩ := escape_invertible
  refine ⟨hone, hother, by decide +kernel, fun h => ?_, ?_⟩
  · exact absurd (hinjective _ _ hother hone h) (by decide)
  · rw [hback]
    decide +kernel

end SymbolIndex.Key
