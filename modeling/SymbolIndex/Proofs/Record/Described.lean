import SymbolIndex.Proofs.Record

/-!
# Values that describe symbols

A JSON value describes a symbol if it is an object with a name that shows, a raw name or none, and
places to jump to, each of which is a URL and a scope or none (`IsSymbol`). Such a value is accepted
as the entry that has all it says (`Describes`), and every other value is rejected
(`validate_whole_or_reject`).
-/

namespace SymbolIndex.Record

open Json

variable {raw item : Json} {m : Members} {items : List Json} {name s rawName : String}
  {o : Occurrence} {os : List Occurrence} {e : Entry} {index : Option Int}

/-! ### Members -/

/-- A member is a text, or it is missing and stands for empty text. -/
def TextAt (m : Members) (name s : String) : Prop :=
  m.get? name = some (.str s) ∨ m.get? name = none ∧ s = ""

theorem field_eq_str : field m name = .str s ↔ TextAt m name s := by
  unfold field TextAt
  cases m.get? name <;> simp [eq_comm]

/-- A text that is not empty is no default. -/
theorem get?_of_textAt (h : TextAt m name s) (hs : s ≠ "") : m.get? name = some (.str s) :=
  h.resolve_right fun hnone => hs hnone.2

/-! ### Places -/

/-- A value is an object with a URL, which is not empty, and a scope or none. -/
inductive PlaceOf : Json → Occurrence → Prop where
  | mk {m : Members} {o : Occurrence} (anchor : m.get? "anchor_url" = some (.str o.anchorUrl))
    (anchor_ne : o.anchorUrl ≠ "") (scope : TextAt m "scope_label" o.scopeLabel) :
    PlaceOf (.obj m) o

theorem placeOf_iff : PlaceOf item o ↔
    Place.ofJson item = Place.ofOccurrence o ∧ o.anchorUrl ≠ "" := by
  constructor
  · rintro ⟨anchor, hne, scope⟩
    exact ⟨congrArg₂ Place.mk (field_eq_str.2 (.inl anchor)) (field_eq_str.2 scope), hne⟩
  · rintro ⟨h, hne⟩
    cases item with
    | obj m =>
      obtain ⟨anchor, scope⟩ := Place.mk.inj h
      exact .mk (get?_of_textAt (field_eq_str.1 anchor) hne) hne (field_eq_str.1 scope)
    -- What is no object has the empty text for a URL.
    | _ => exact absurd (Json.str.inj (Place.mk.inj h).1).symm hne

theorem forall₂_placeOf_iff : List.Forall₂ PlaceOf items os ↔
    items.map Place.ofJson = os.map Place.ofOccurrence ∧ ∀ o ∈ os, o.anchorUrl ≠ "" := by
  induction items generalizing os with
  | nil => cases os <;> simp
  | cons item items ih =>
    cases os with
    | nil => simp
    | cons o os =>
      simp only [List.forall₂_cons, placeOf_iff, ih, List.map_cons, List.cons.injEq,
        List.forall_mem_cons]
      tauto

/-! ### Symbols -/

/-- What an object says that describes a symbol, and the entry it stands for. -/
structure Describes (m : Members) (rawName : String) (items : List Json) (e : Entry) : Prop where
  displayName : m.get? "display_name" = some (.str e.displayName)
  visible : ∃ c ∈ e.displayName.toList, Unicode.isBlank c = false
  raw : TextAt m "raw_name" rawName
  occurrences : m.get? "occurrences" = some (.arr items)
  places : List.Forall₂ PlaceOf items e.occurrences
  items_ne : items ≠ []
  key : e.key = Key.normalize (if rawName = "" then e.displayName else rawName)
  key_ne : e.key ≠ ""

/-- A value is an object whose name shows, whose raw name is a text or missing, whose occurrences
are a list of places that is not empty, and whose name in force has a key. -/
def IsSymbol (raw : Json) : Prop :=
  ∃ (m : Members) (name rawName : String) (items : List Json), raw = .obj m ∧
    m.get? "display_name" = some (.str name) ∧ (∃ c ∈ name.toList, Unicode.isBlank c = false) ∧
    TextAt m "raw_name" rawName ∧
    m.get? "occurrences" = some (.arr items) ∧ items ≠ [] ∧ (∀ i ∈ items, ∃ o, PlaceOf i o) ∧
    Key.normalize (if rawName = "" then name else rawName) ≠ ""

theorem isVisible_iff : isVisible name = true ↔ ∃ c ∈ name.toList, Unicode.isBlank c = false := by
  simp [isVisible]

theorem isSymbol_iff : IsSymbol raw ↔
    ∃ m rawName items e, raw = .obj m ∧ Describes m rawName items e := by
  constructor
  · rintro ⟨m, name, rawName, items, hraw, hname, hvisible, hrawName, hitems, hne, hplaces, hkey⟩
    obtain ⟨os, hos⟩ := exists_forall₂ hplaces
    exact ⟨m, rawName, items, ⟨_, name, os⟩, hraw, hname, hvisible, hrawName, hitems, hos, hne, rfl,
      hkey⟩
  · rintro ⟨m, rawName, items, e, hraw, h⟩
    refine ⟨m, e.displayName, rawName, items, hraw, h.displayName, h.visible, h.raw, h.occurrences,
      h.items_ne, fun i hi => ?_, h.key ▸ h.key_ne⟩
    obtain ⟨o, -, ho⟩ := exists_of_forall₂_mem h.places.flip hi
    exact ⟨o, ho⟩

theorem Describes.ofJson_eq (h : Describes m rawName items e) :
    ofJson (.obj m) = .ofText rawName e.displayName e.occurrences := by
  rw [ofText_eq, ← (forall₂_placeOf_iff.1 h.places).1]
  simp only [ofJson, h.occurrences, field_eq_str.2 h.raw, field_eq_str.2 (.inl h.displayName)]

theorem Describes.valid? (h : Describes m rawName items e) : (ofJson (.obj m)).valid? = some e := by
  have hne : e.occurrences ≠ [] := by
    intro hnil
    have hlength := h.places.length_eq
    rw [hnil, List.length_nil, List.length_eq_zero_iff] at hlength
    exact h.items_ne hlength
  exact valid?_eq_some_iff.2 ⟨rawName, h.ofJson_eq, isVisible_iff.2 h.visible, hne,
    (forall₂_placeOf_iff.1 h.places).2, h.key, h.key_ne⟩

theorem describes_of_valid? (h : (ofJson raw).valid? = some e) :
    ∃ m rawName items, raw = .obj m ∧ Describes m rawName items e := by
  obtain ⟨rawName, hof, hvisible, hne, hanchors, hkey, hkne⟩ := valid?_eq_some_iff.1 h
  rw [ofText_eq] at hof
  have hplaces := congrArg Record.occurrences hof
  cases raw with
  | obj m =>
    simp only [ofJson] at hplaces
    split at hplaces
    · rename_i items hitems
      refine ⟨m, rawName, items, rfl, ?_, isVisible_iff.1 hvisible,
        field_eq_str.1 (congrArg Record.rawName hof), hitems,
        forall₂_placeOf_iff.2 ⟨hplaces, hanchors⟩, ?_, hkey, hkne⟩
      · refine get?_of_textAt (field_eq_str.1 (congrArg Record.displayName hof)) ?_
        rintro hempty
        rw [hempty] at hvisible
        exact absurd hvisible (by decide)
      · rintro rfl
        exact hne (List.map_eq_nil_iff.1 hplaces.symm)
    · exact absurd (List.map_eq_nil_iff.1 hplaces.symm) hne
  -- What is no object has no places.
  | _ => exact absurd (List.map_eq_nil_iff.1 hplaces.symm) hne

theorem validate_ofJson_eq_ok : (ofJson raw).validate index = .ok e ↔
    ∃ m rawName items, raw = .obj m ∧ Describes m rawName items e := by
  rw [validate_eq_ok]
  constructor
  · exact describes_of_valid?
  · rintro ⟨m, rawName, items, rfl, h⟩
    exact h.valid?

/-- A value is accepted if it describes a symbol, and then its entry has one occurrence for each
item, in order, with the texts of the item, and the key of its raw name or else of its display name.
Any other value is rejected under the number that was given to it. -/
theorem validate_whole_or_reject (raw : Json) (index : Option Int) :
    ((∃ e, (ofJson raw).validate index = .ok e) ↔ IsSymbol raw) ∧
    (∀ e, (ofJson raw).validate index = .ok e → ∃ m rawName items, raw = .obj m ∧
      Describes m rawName items e ∧ ofJson raw = .ofText rawName e.displayName e.occurrences) ∧
    (¬ IsSymbol raw → ∃ x, (ofJson raw).validate index = .error x ∧ x.index = index) := by
  have hiff : (∃ e, (ofJson raw).validate index = .ok e) ↔ IsSymbol raw := by
    rw [isSymbol_iff]
    constructor
    · rintro ⟨e, h⟩
      obtain ⟨m, rawName, items, hraw, h⟩ := validate_ofJson_eq_ok.1 h
      exact ⟨m, rawName, items, e, hraw, h⟩
    · rintro ⟨m, rawName, items, e, hraw, h⟩
      exact ⟨e, validate_ofJson_eq_ok.2 ⟨m, rawName, items, hraw, h⟩⟩
  refine ⟨hiff, fun e h => ?_, fun h => ?_⟩
  · obtain ⟨m, rawName, items, rfl, hdescribes⟩ := validate_ofJson_eq_ok.1 h
    exact ⟨m, rawName, items, rfl, hdescribes, hdescribes.ofJson_eq⟩
  · cases hv : (ofJson raw).validate index with
    | ok e => exact absurd (hiff.1 ⟨e, hv⟩) h
    | error x => exact ⟨x, rfl, index_of_validate hv⟩

/-- A symbol with an empty raw name and two places, the scope of the second as given. -/
def placedTwice (scope : Json) : Json :=
  .obj [("display_name", .str " Get"), ("raw_name", .str ""), ("occurrences", .arr
    [.obj [("anchor_url", .str "a.html")],
      .obj [("scope_label", scope), ("anchor_url", .str "b.html")]])]

/-- A scope that is null is neither a text nor missing, and takes the first place with it. -/
theorem validate_whole_or_reject_placedTwice :
    IsSymbol (placedTwice (.str "A")) ∧
    (∃ m rawName items, placedTwice (.str "A") = .obj m ∧
      Describes m rawName items ⟨"get", " Get", [⟨"a.html", ""⟩, ⟨"b.html", "A"⟩]⟩) ∧
    ¬ IsSymbol (placedTwice .null) ∧
    ∃ x, (ofJson (placedTwice .null)).validate (some 7) = .error x ∧ x.index = some 7 := by
  have hok : (ofJson (placedTwice (.str "A"))).validate (some 7) =
      .ok ⟨"get", " Get", [⟨"a.html", ""⟩, ⟨"b.html", "A"⟩]⟩ :=
    toOption_eq_some.1 (by decide +kernel)
  have hnone : ((ofJson (placedTwice .null)).validate (some 7)).toOption = none := by
    decide +kernel
  obtain ⟨hiff, hwhole, -⟩ := validate_whole_or_reject (placedTwice (.str "A")) (some 7)
  obtain ⟨hiff', -, hreject⟩ := validate_whole_or_reject (placedTwice .null) (some 7)
  obtain ⟨m, rawName, items, hraw, hdescribes, -⟩ := hwhole _ hok
  have hnot : ¬ IsSymbol (placedTwice .null) := by
    intro h
    obtain ⟨e, he⟩ := hiff'.2 h
    rw [he] at hnone
    cases hnone
  exact ⟨hiff.1 ⟨_, hok⟩, ⟨m, rawName, items, hraw, hdescribes⟩, hnot, hreject hnot⟩

end SymbolIndex.Record
