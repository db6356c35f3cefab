import SymbolIndex.Manifest
import SymbolIndex.Proofs.Except
import SymbolIndex.Proofs.Json.Reads
import SymbolIndex.Proofs.Json.Scans
import SymbolIndex.Proofs.Key.Escape
import SymbolIndex.Proofs.World
import SymbolIndex.Record.File
import SymbolIndex.SearchData.Basic

/-!
# How texts are refused

Each decoder gives a value or refuses its text with an error of its own format, unless the text
has a numeral of more than `maxDigits` digits or, in search data, a key with a surrogate on its own
(`decoders_refuse_by_format`). Those are refused in another way (`long_numeral_refused_as_number`).
-/

namespace SymbolIndex

open Text.Numeral

/-! ### Documents, shards and manifests -/

theorem Document.isFormat_or_longRun {format text : String} {e : Document.Error}
    (h : Document.read format text = .error e) : e.isFormat = true ∨ LongRun text.toList := by
  unfold Document.read at h
  rcases bind_eq_error.1 h with h | ⟨v, _, h⟩
  · obtain ⟨e', he, rfl⟩ := mapError_eq_error.1 h
    exact Json.isMalformed_or_longRun he
  · left
    split at h
    · dsimp only at h
      split at h
      · cases h
        rfl
      · split at h
        · cases h
          rfl
        · cases h
    · cases h
      rfl

namespace Shard

variable {e : ReadError}

theorem isFormat_of_readOccurrence {key : String} {v : Json}
    (h : readOccurrence key v = .error e) : e.isFormat = true := by
  unfold readOccurrence at h
  split at h <;> cases h
  rfl

theorem isFormat_of_readEntry {v : Json} (h : readEntry v = .error e) : e.isFormat = true := by
  unfold readEntry at h
  split at h
  · split at h
    · split at h
      · cases h
        rfl
      · split at h
        · rcases bind_eq_error.1 h with h | ⟨os, _, h⟩
          · obtain ⟨place, _, hplace⟩ := exists_of_mapM_eq_error h
            exact isFormat_of_readOccurrence hplace
          · cases h
        · cases h
          rfl
    · cases h
      rfl
  · cases h
    rfl

theorem isFormat_or_longRun {text : String} (h : read text = .error e) :
    e.isFormat = true ∨ LongRun text.toList := by
  unfold read at h
  rcases bind_eq_error.1 h with h | ⟨m, _, h⟩
  · obtain ⟨e', he, rfl⟩ := mapError_eq_error.1 h
    exact Document.isFormat_or_longRun he
  · left
    split at h
    · dsimp only at h
      split at h
      · cases h
        rfl
      · split at h
        · rcases bind_eq_error.1 h with h | ⟨es, _, h⟩
          · obtain ⟨item, _, hitem⟩ := exists_of_mapM_eq_error h
            exact isFormat_of_readEntry hitem
          · split at h <;> cases h
            rfl
        · cases h
          rfl
    · cases h
      rfl

end Shard

namespace Manifest

variable {e : ReadError}

theorem isFormat_of_readPartition {scheme shardCount : Json}
    (h : readPartition scheme shardCount = .error e) : e.isFormat = true := by
  unfold readPartition at h
  repeat' split at h
  all_goals cases h
  all_goals rfl

theorem isFormat_of_readRow {v : Json} (h : readRow v = .error e) : e.isFormat = true := by
  unfold readRow at h
  split at h <;> cases h
  rfl

theorem isFormat_or_longRun {text : String} (h : read text = .error e) :
    e.isFormat = true ∨ LongRun text.toList := by
  unfold read at h
  rcases bind_eq_error.1 h with h | ⟨m, _, h⟩
  · obtain ⟨e', he, rfl⟩ := mapError_eq_error.1 h
    exact Document.isFormat_or_longRun he
  left
  rcases bind_eq_error.1 h with h | ⟨p, _, h⟩
  · exact isFormat_of_readPartition h
  split at h
  · rcases bind_eq_error.1 h with h | ⟨rows, _, h⟩
    · obtain ⟨row, _, hrow⟩ := exists_of_mapM_eq_error h
      exact isFormat_of_readRow hrow
    · cases h
  · cases h
    rfl

end Manifest

/-! ### Search data files -/

/-- A text has a reference by a number of too many digits. -/
def CharRef.LongReference (s : List Char) : Prop :=
  ∃ ds, ('&' :: '#' :: ds) <:+: s ∧ maxDigits < ds.length ∧ ∀ c ∈ ds, c.isDigit = true

theorem CharRef.LongReference.mono {s t : List Char} (h : LongReference s) (hs : s <:+: t) :
    LongReference t := by
  obtain ⟨ds, hds, hlong⟩ := h
  exact ⟨ds, hds.trans hs, hlong⟩

theorem CharRef.longReference_of_reference? {s : List Char} {taken : Nat} {e : HugeNumeral}
    (h : reference? s = some (taken, .error e)) : LongReference ('&' :: s) := by
  unfold reference? at h
  split at h
  · rename_i body
    dsimp only at h
    split at h
    · split at h
      · split at h <;> cases h
      · cases h
    · split at h
      · rename_i hlong
        refine ⟨body.takeWhile Char.isDigit, List.IsPrefix.isInfix ⟨body.dropWhile Char.isDigit, ?_⟩,
          hlong, fun _ hc => List.mem_takeWhile_imp hc⟩
        rw [List.cons_append, List.cons_append, List.takeWhile_append_dropWhile]
      · cases h
  · dsimp only at h
    split at h <;> cases h

theorem CharRef.longReference_of_unescape {s : List Char} {e : HugeNumeral}
    (h : unescape s = .error e) : LongReference s := by
  fun_induction unescape s with
  | case1 => cases h
  | case2 rest _ ih =>
    rcases bind_eq_error.1 h with h | ⟨_, _, h⟩
    · exact (ih h).mono (List.suffix_cons _ _).isInfix
    · cases h
  | case3 rest taken image hreference ih =>
    rcases bind_eq_error.1 h with himage | ⟨_, _, h⟩
    · subst himage
      exact longReference_of_reference? hreference
    rcases bind_eq_error.1 h with h | ⟨_, _, h⟩
    · exact (ih h).mono ((List.drop_suffix _ _).trans (List.suffix_cons _ _)).isInfix
    · cases h
  | case4 c rest _ ih =>
    rcases bind_eq_error.1 h with h | ⟨_, _, h⟩
    · exact (ih h).mono (List.suffix_cons _ _).isInfix
    · cases h

/-- A value is a text or, by its items, has it. -/
inductive Json.HasText (t : String) : Json → Prop where
  | here : HasText t (.str t)
  | item {v : Json} {vs : List Json} (hv : v ∈ vs) (h : HasText t v) : HasText t (.arr vs)

namespace SearchData

variable {e : Error} {points : List Text.Utf8.CodePoint}

/-- Some text of a value has a reference by a number of too many digits. -/
def HasLongReference (v : Json) : Prop := ∃ t, Json.HasText t v ∧ CharRef.LongReference t.toList

theorem HasLongReference.item {v : Json} {vs : List Json} (h : HasLongReference v) (hv : v ∈ vs) :
    HasLongReference (.arr vs) := by
  obtain ⟨t, ht, hlong⟩ := h
  exact ⟨t, .item hv ht, hlong⟩

theorem hasLongReference_of_plainText {v : Json} (h : plainText v = .error e) :
    HasLongReference v := by
  unfold plainText at h
  split at h
  · rename_i t
    split at h
    · cases h
    · exact ⟨t, .here, CharRef.longReference_of_unescape ‹_›⟩
  · cases h

theorem isFormat_or_long_of_readOccurrence {key place : Json}
    (h : readOccurrence key place = .error e) :
    e.isFormat = true ∨ HasLongReference place := by
  unfold readOccurrence at h
  split at h
  · rename_i url rest
    right
    rcases bind_eq_error.1 h with h | ⟨_, _, h⟩
    · have hlong := hasLongReference_of_plainText h
      cases hv : rest[1]? with
      | none =>
        rw [hv] at hlong
        obtain ⟨t, ht, ds, hds, hlong, _⟩ := hlong
        cases ht
        have hlen := hds.length_le
        simp at hlen
      | some v =>
        rw [hv] at hlong
        exact hlong.item (List.mem_cons_of_mem _ (List.mem_of_getElem? hv))
    · cases h
  · cases h
    exact .inl rfl

theorem exists_surrogate_of_readKey {key : Json} (h : readKey points key = .error e) :
    ∃ code, .surrogate code ∈ points := by
  unfold readKey at h
  split at h
  · split at h
    · rename_i hsome
      by_contra hnone
      rw [Key.unencodable?_eq_none_iff.2 (not_exists.1 hnone)] at hsome
      cases hsome
    · cases h
  · cases h

theorem isFormat_or_long_of_readRow {row : Json} (h : readRow points row = .error e) :
    e.isFormat = true ∨ HasLongReference row ∨ ∃ code, .surrogate code ∈ points := by
  unfold readRow at h
  split at h
  · rename_i key name places
    have hrow : ∀ {v}, v ∈ name :: places → HasLongReference v →
        HasLongReference (.arr [key, .arr (name :: places)]) := by
      intro v hv hlong
      exact (hlong.item hv).item (List.mem_cons_of_mem _ List.mem_cons_self)
    rcases bind_eq_error.1 h with h | ⟨occurrences, _, h⟩
    · obtain ⟨place, hplace, h⟩ := exists_of_mapM_eq_error h
      exact (isFormat_or_long_of_readOccurrence h).imp_right
        fun hlong => .inl (hrow (List.mem_cons_of_mem _ hplace) hlong)
    rcases bind_eq_error.1 h with h | ⟨rawName, _, h⟩
    · exact .inr (.inr (exists_surrogate_of_readKey h))
    rcases bind_eq_error.1 h with h | ⟨_, _, h⟩
    · exact .inr (.inl (hrow List.mem_cons_self (hasLongReference_of_plainText h)))
    · cases h
  · cases h
    exact .inl rfl

/-- The key of some row of an array has a surrogate on its own. -/
def HasLoneSurrogate (array : List Char) : Prop :=
  ∃ text ∈ Json.arrayTexts array, ∃ code, .surrogate code ∈ Json.headPoints text

theorem isFormat_or_long_of_read {text : String} (h : read text = .error e) :
    e.isFormat = true ∨ ∃ body, afterVariable? text.toList = some body ∧
      (LongRun (arrayText body) ∨ ∃ v, Json.read (arrayText body) = .ok v ∧
        (HasLongReference v ∨ HasLoneSurrogate (arrayText body))) := by
  unfold read at h
  split at h
  · cases h
    exact .inl rfl
  · rename_i body hbody
    rcases bind_eq_error.1 h with h | ⟨v, hv, h⟩
    · obtain ⟨e', he, rfl⟩ := mapError_eq_error.1 h
      exact (Json.isMalformed_or_longRun he).imp_right fun hlong => ⟨body, hbody, .inl hlong⟩
    have hv := mapError_eq_ok.1 hv
    split at h
    · obtain ⟨⟨rowText, row⟩, hmem, hrow⟩ := exists_of_mapM_eq_error h
      obtain ⟨htext, hmem⟩ := List.of_mem_zip hmem
      rcases isFormat_or_long_of_readRow hrow with hformat | hlong | hlone
      · exact .inl hformat
      · exact .inr ⟨body, hbody, .inr ⟨_, hv, .inl (hlong.item hmem)⟩⟩
      · exact .inr ⟨body, hbody, .inr ⟨_, hv, .inr ⟨rowText, htext, hlone⟩⟩⟩
    · cases h
      exact .inl rfl

end SearchData

/-! ### Record files -/

namespace Record

open World Effect

/-- What an existing file holds is refused as malformed, or it has a numeral that is too long. -/
theorem isMalformed_or_longRun {w w' : World} {p : File.Path} {content : List UInt8}
    {e : FileError} (hp : Holds w.disk p content) (h : Fails (ofFile p) w e w') :
    e.isMalformed = true ∨
      ∃ text, File.decodeText content = .ok text ∧ LongRun text.toList := by
  rcases fails_bind.1 h with h | ⟨text, u, htext, h⟩
  · rw [readText, fails_bind_of_gives hp.gives_read] at h
    obtain ⟨fault, _, rfl, _⟩ := fails_ofExcept.1 h
    exact .inl rfl
  obtain ⟨content', v, hread, htext⟩ := gives_bind.1 htext
  obtain ⟨rfl, rfl⟩ := hp.gives_read.unique hread
  obtain ⟨hdecode, rfl⟩ := gives_ofExcept.1 htext
  rcases fails_bind.1 h with h | ⟨v, u, _, h⟩
  · obtain ⟨e', he, rfl, _⟩ := fails_ofExcept.1 h
    exact (Json.isMalformed_or_longRun he).imp_right fun hlong => ⟨text, hdecode, hlong⟩
  · split at h
    · exact absurd h not_fails_pure
    · obtain ⟨rfl, _⟩ := fails_throw.1 h
      exact .inl rfl

end Record

/-- As a shard, a manifest or search data a text is refused with an error of that format, whatever
is wrong, but for numerals of more than `maxDigits` digits and, in search data, keys with a
surrogate on its own, which is not encoded; and so is the content of a record file. -/
theorem decoders_refuse_by_format (text : String) (w : World) (p : File.Path)
    (content : List UInt8) :
    (∀ e, Shard.read text = .error e → e.isFormat = true ∨ LongRun text.toList) ∧
    (∀ e, Manifest.read text = .error e → e.isFormat = true ∨ LongRun text.toList) ∧
    (∀ e, SearchData.read text = .error e → e.isFormat = true ∨
      ∃ body, SearchData.afterVariable? text.toList = some body ∧
        (LongRun (SearchData.arrayText body) ∨
          ∃ v, Json.read (SearchData.arrayText body) = .ok v ∧
            (SearchData.HasLongReference v ∨
              SearchData.HasLoneSurrogate (SearchData.arrayText body)))) ∧
    (World.Holds w.disk p content → ∀ e w', Effect.Fails (Record.ofFile p) w e w' →
      e.isMalformed = true ∨ ∃ t, File.decodeText content = .ok t ∧ LongRun t.toList) :=
  ⟨fun _ => Shard.isFormat_or_longRun, fun _ => Manifest.isFormat_or_longRun,
    fun _ => SearchData.isFormat_or_long_of_read, fun hp _ _ => Record.isMalformed_or_longRun hp⟩

example : (match SearchData.read "var searchData=[[\"b\\udfff\",[\"x\",[\"a\"]]]]" with
    | .error e => e.message
    | .ok _ => "") =
      "'utf-8' codec can't encode character '\\udfff' in position 1: surrogates not allowed" := by
  decide +kernel

/-- A file of a byte order mark and an array. -/
def markedWorld : World := ⟨⟨⟨[(["r.json"], .file [0xef, 0xbb, 0xbf, 0x5b, 0x5d])]⟩, [], []⟩, []⟩

/-- A number beyond all floats in a text that is no object, a bad escape, an array that is not
closed, and a byte order mark. -/
theorem decoders_refuse_by_format_awkward :
    (∃ e, Shard.read "[1e400,\"\\ud800\"]" = .error e ∧ e.isFormat = true) ∧
    (∃ e, Manifest.read "[\"\\u12\"]" = .error e ∧ e.isFormat = true) ∧
    (∃ e, SearchData.read "var searchData=[['it\\'s']" = .error e ∧ e.isFormat = true) ∧
    ∃ e w', Effect.Fails (Record.ofFile (.ofString "r.json")) markedWorld e w' ∧
      e.isMalformed = true := by
  have hrefuse := fun text => decoders_refuse_by_format text markedWorld (.ofString "r.json")
    [0xef, 0xbb, 0xbf, 0x5b, 0x5d]
  refine ⟨?_, ?_, ?_, ?_⟩
  · obtain ⟨e, he⟩ := exists_error_of_isOk
      (show (Shard.read "[1e400,\"\\ud800\"]").isOk = false by decide +kernel)
    exact ⟨e, he, ((hrefuse _).1 e he).resolve_right (not_longRun_of_short (by decide))⟩
  · obtain ⟨e, he⟩ := exists_error_of_isOk
      (show (Manifest.read "[\"\\u12\"]").isOk = false by decide +kernel)
    exact ⟨e, he, ((hrefuse _).2.1 e he).resolve_right (not_longRun_of_short (by decide))⟩
  · obtain ⟨e, he⟩ := exists_error_of_isOk
      (show (SearchData.read "var searchData=[['it\\'s']").isOk = false by decide +kernel)
    refine ⟨e, he, ((hrefuse _).2.2.1 e he).resolve_right ?_⟩
    rintro ⟨body, hbody, h⟩
    obtain rfl : "[['it\\'s']".toList = body :=
      Option.some.inj ((show _ = some "[['it\\'s']".toList by decide +kernel).symm.trans hbody)
    rcases h with h | ⟨v, hv, _⟩
    · exact not_longRun_of_short (by decide +kernel) h
    · have hno : (Json.read (SearchData.arrayText "[['it\\'s']".toList)).isOk = false := by
        decide +kernel
      rw [hv] at hno
      cases hno
  · obtain ⟨e, he⟩ := Effect.exists_fails_of_isOk
      (show (Effect.outcome (Record.ofFile (.ofString "r.json")) markedWorld).1.isOk = false by
        decide +kernel)
    have hheld : World.Holds markedWorld.disk (.ofString "r.json") [0xef, 0xbb, 0xbf, 0x5b, 0x5d] :=
      ⟨by decide +kernel, ["r.json"], rfl, rfl⟩
    refine ⟨e, _, he, ((hrefuse "").2.2.2 hheld e _ he).resolve_right ?_⟩
    rintro ⟨t, ht, h⟩
    obtain rfl : "\uFEFF[]" = t :=
      Except.ok.inj ((show _ = Except.ok "\uFEFF[]" by decide +kernel).symm.trans ht)
    exact not_longRun_of_short (by decide) h

/-! ### Long numerals -/

namespace Json

theorem items_long (fuel : Nat) {c : Char} {ds rest : List Char}
    (hlong : maxDigits < (c :: ds).length) (hd : ∀ d ∈ c :: ds, d.isDigit = true) (h0 : c ≠ '0')
    (hr : Ends rest) :
    items (fuel + 2) (c :: (ds ++ rest)) = .error (.hugeInteger (c :: ds).length) := by
  have hc := hd c List.mem_cons_self
  have hvalue : value (fuel + 1) (c :: (ds ++ rest)) = .error (.hugeInteger (c :: ds).length) := by
    rw [value_scalar, scalar_digits hc, ← List.cons_append,
      number?_long false hlong hd (by simpa using h0) hr]
    · rfl
    · rintro d hd
      obtain rfl : c = d := by simpa using hd
      refine ⟨?_, ?_, ?_⟩ <;> (rintro rfl; revert hc; decide)
  rw [items, hvalue]
  rfl

/-- An array that begins with a numeral of too many digits. -/
theorem read_long {c : Char} {ds rest : List Char} (hlong : maxDigits < (c :: ds).length)
    (hd : ∀ d ∈ c :: ds, d.isDigit = true) (h0 : c ≠ '0') (hr : Ends rest) :
    read ('[' :: c :: (ds ++ rest)) = .error (.hugeInteger (c :: ds).length) := by
  have hc := hd c List.mem_cons_self
  have hspace : skipSpace (c :: (ds ++ rest)) = c :: (ds ++ rest) := by
    refine List.dropWhile_cons_of_neg fun h => ?_
    rw [(ends_of_isSpace (t := []) h c rfl).1] at hc
    cases hc
  obtain ⟨fuel, hfuel⟩ : ∃ fuel, 2 * ('[' :: c :: (ds ++ rest)).length + 2 = fuel + 2 + 1 :=
    ⟨2 * (c :: (ds ++ rest)).length + 1, by rw [List.length_cons]; omega⟩
  have hvalue : value (fuel + 2 + 1) ('[' :: c :: (ds ++ rest)) =
      .error (.hugeInteger (c :: ds).length) := by
    rw [value.eq_def]
    simp only [hspace]
    split
    · rename_i h
      cases h
      exact absurd hc (by decide)
    · rw [items_long fuel hlong hd h0 hr]
      rfl
  have hdocument : document ('[' :: c :: (ds ++ rest)) =
      .error (.hugeInteger (c :: ds).length) := by
    rw [document, hfuel, show skipSpace ('[' :: c :: (ds ++ rest)) = '[' :: c :: (ds ++ rest) from
      rfl, hvalue]
    rfl
  rw [read.eq_def]
  simp only [hdocument]
  rfl

theorem read_ones {n : Nat} (h : maxDigits < n) :
    read ('[' :: List.replicate n '1' ++ [']']) = .error (.hugeInteger n) := by
  obtain ⟨m, rfl⟩ : ∃ m, n = m + 1 := ⟨n - 1, by omega⟩
  have hread : read ('[' :: '1' :: (List.replicate m '1' ++ [']'])) =
      .error (.hugeInteger ('1' :: List.replicate m '1').length) :=
    read_long (by rwa [List.length_cons, List.length_replicate])
      (fun d hd => List.eq_of_mem_replicate (n := m + 1) hd ▸ (by decide)) (by decide)
      (ends_cons (by decide))
  rwa [List.length_cons, List.length_replicate] at hread

end Json

/-- A long numeral in an array is no fault of the text. -/
theorem long_numeral_refused_as_number : ∃ e,
    Shard.read (String.ofList ('[' :: List.replicate 4301 '1' ++ [']'])) = .error e ∧
      e.isFormat = false := by
  refine ⟨.document (.unreadable (.hugeInteger 4301)), ?_, rfl⟩
  rw [Shard.read, Document.read, String.toList_ofList, Json.read_ones (by decide)]
  rfl

end SymbolIndex
