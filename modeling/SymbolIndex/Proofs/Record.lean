import SymbolIndex.Proofs.Except
import SymbolIndex.Proofs.Key.Normal
import SymbolIndex.Record.Basic

/-!
# Valid records

Which records are valid (`valid?_eq_some_iff`), what the entry of a valid record has from the
record, and that the number of a record changes nothing but the number in its rejection.
-/

namespace SymbolIndex.Record

/-- An occurrence as a record reports it. -/
def Place.ofOccurrence (o : Occurrence) : Place := ⟨.str o.anchorUrl, .str o.scopeLabel⟩

/-- The entry that a record gives rise to, if it is valid. -/
def valid? (r : Record) : Option Entry := (r.validate none).toOption

/-- The key of a record, if it is valid. -/
def key? (r : Record) : Option String := r.valid?.map (·.key)

/-- The rejection of a record with a number, if it is not valid. -/
def rejection? (r : Record) (index : Nat) : Option Rejection :=
  match r.validate (some (index : Int)) with
  | .ok _ => none
  | .error x => some x

theorem toOption_validate (r : Record) (index : Option Int) :
    (r.validate index).toOption = r.valid? := by
  unfold valid? validate
  split
  · split
    · cases r.entryNamed _ <;> rfl
    · rfl
  · rfl

theorem validate_eq_ok {r : Record} (index : Option Int) {e : Entry} :
    r.validate index = .ok e ↔ r.valid? = some e := by
  rw [← toOption_validate r index, toOption_eq_some]

/-- A rejection carries the number of the record. -/
theorem index_of_validate {r : Record} {index : Option Int} {x : Rejection}
    (h : r.validate index = .error x) : x.index = index := by
  unfold validate at h
  split at h
  · split at h
    · cases hn : r.entryNamed _ with
      | ok e => rw [hn] at h; cases h
      | error d => rw [hn] at h; cases h; rfl
    · cases h; rfl
  · cases h; rfl

theorem validPlaces_eq_ok {position : Nat} {ps : List Place} {os : List Occurrence}
    (h : validPlaces position ps = .ok os) :
    ps = os.map Place.ofOccurrence ∧ ∀ o ∈ os, o.anchorUrl ≠ "" := by
  induction ps generalizing position os with
  | nil => cases h; simp
  | cons p ps ih =>
    obtain ⟨anchor, scope⟩ := p
    cases anchor with
    | str url =>
      simp only [validPlaces] at h
      split at h
      · cases h
      · rename_i hurl
        cases scope with
        | str label =>
          obtain ⟨rest, hrest, h⟩ := bind_eq_ok.1 h
          cases h
          obtain ⟨rfl, hall⟩ := ih hrest
          exact ⟨rfl, by simpa using ⟨hurl, hall⟩⟩
        | _ => cases h
    | _ => cases h

theorem ofText_eq (rawName displayName : String) (os : List Occurrence) :
    ofText rawName displayName os = ⟨.str rawName, .str displayName, os.map Place.ofOccurrence⟩ :=
  rfl

theorem validPlaces_map_ofOccurrence {os : List Occurrence} (h : ∀ o ∈ os, o.anchorUrl ≠ "")
    (position : Nat) : validPlaces position (os.map Place.ofOccurrence) = .ok os := by
  induction os generalizing position with
  | nil => rfl
  | cons o os ih =>
    have hrest := ih (fun o ho => h o (List.mem_cons_of_mem _ ho)) (position + 1)
    simp only [List.map_cons, Place.ofOccurrence, validPlaces, if_neg (h o List.mem_cons_self)]
    rw [hrest]
    rfl

/-- A valid record has the name and the occurrences of its entry, and the entry has a name that
shows, a key, and occurrences that lead somewhere. -/
theorem valid?_eq_some_iff {r : Record} {e : Entry} :
    r.valid? = some e ↔ ∃ raw, r = .ofText raw e.displayName e.occurrences ∧
      isVisible e.displayName = true ∧ e.occurrences ≠ [] ∧
      (∀ o ∈ e.occurrences, o.anchorUrl ≠ "") ∧
      e.key = Key.normalize (if raw = "" then e.displayName else raw) ∧ e.key ≠ "" := by
  rw [← validate_eq_ok none]
  constructor
  · intro h
    obtain ⟨rawName, displayName, places⟩ := r
    unfold validate at h
    split at h
    · rename_i name hname
      split at h
      · rename_i hvisible
        rw [mapError_eq_ok] at h
        unfold entryNamed at h
        split at h
        · rename_i raw hraw
          split at h
          · cases h
          · rename_i hne
            obtain ⟨os, hos, h⟩ := bind_eq_ok.1 h
            generalize hk : Key.normalize _ = key at h
            simp only at h hname hraw hne hos
            split at h
            · cases h
            · rename_i hkey
              cases h
              obtain ⟨rfl, hanchors⟩ := validPlaces_eq_ok hos
              subst hname hraw
              refine ⟨raw, rfl, hvisible, ?_, hanchors, hk.symm, hkey⟩
              rintro rfl
              exact hne rfl
        · cases h
      · cases h
    · cases h
  · rintro ⟨raw, rfl, hvisible, hne, hanchors, hkey, hkne⟩
    obtain ⟨key, name, os⟩ := e
    simp only at hvisible hne hanchors hkey hkne
    subst hkey
    have hplaces : (os.map Place.ofOccurrence).isEmpty = false := by simpa using hne
    have hentry : entryNamed (.ofText raw name os) name =
        .ok ⟨Key.normalize (if raw = "" then name else raw), name, os⟩ := by
      rw [ofText_eq]
      simp only [entryNamed, hplaces, Bool.false_eq_true, if_false,
        validPlaces_map_ofOccurrence hanchors 0, bind, Except.bind, if_neg hkne]
      rfl
    have hname : (Record.ofText raw name os).displayName = .str name := rfl
    rw [validate, hname]
    simp only [hvisible, if_true, hentry]
    rfl

/-- The name that a record's key is made of. -/
def keyName (r : Record) (displayName : String) : String :=
  match r.rawName with
  | .str raw => if raw = "" then displayName else raw
  | _ => displayName

/-- A valid record has its entry's name and occurrences, and the entry has a key. -/
structure Gives (r : Record) (e : Entry) : Prop where
  displayName : r.displayName = .str e.displayName
  occurrences : r.occurrences = e.occurrences.map Place.ofOccurrence
  key : e.key = Key.normalize (r.keyName e.displayName)
  key_ne : e.key ≠ ""
  occurrences_ne : e.occurrences ≠ []

theorem gives_of_valid? {r : Record} {e : Entry} (h : r.valid? = some e) : r.Gives e := by
  obtain ⟨raw, rfl, _, hne, _, hkey, hkne⟩ := valid?_eq_some_iff.1 h
  exact ⟨rfl, rfl, hkey, hkne, hne⟩

/-! ### Entries as records -/

/-- What the entry of a valid record satisfies. -/
structure Fit (e : Entry) : Prop where
  isVisible : isVisible e.displayName = true
  normalize_key : Key.normalize e.key = e.key
  key_ne : e.key ≠ ""
  occurrences_ne : e.occurrences ≠ []
  anchors_ne : ∀ o ∈ e.occurrences, o.anchorUrl ≠ ""

theorem fit_of_valid? {r : Record} {e : Entry} (h : r.valid? = some e) : Fit e := by
  obtain ⟨raw, _, hvisible, hne, hanchors, hkey, hkne⟩ := valid?_eq_some_iff.1 h
  exact ⟨hvisible, by rw [hkey, Key.normalize_normalize], hkne, hne, hanchors⟩

/-- An entry that comes from a valid record is the entry of a record that repeats it. -/
theorem Fit.valid? {e : Entry} (h : Fit e) :
    (ofText e.key e.displayName e.occurrences).valid? = some e := by
  refine valid?_eq_some_iff.2
    ⟨e.key, rfl, h.isVisible, h.occurrences_ne, h.anchors_ne, ?_, h.key_ne⟩
  rw [if_neg h.key_ne, h.normalize_key]

end SymbolIndex.Record
