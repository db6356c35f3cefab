import SymbolIndex.Proofs.Json.Decoded
import SymbolIndex.Proofs.Settings.Values
import SymbolIndex.Proofs.Text.Numeral
import SymbolIndex.Settings.File

/-!
# Changes of a setting

A change is accepted if the loader would give the new value back, and rejected otherwise
(`exists_update_error`). The settings that result have the new value, and apart from it only the
shard count may differ (`Accepted.get_changed_of_ne`). Saving them keeps the members of the file
that are no settings (`get?_mergeMembers_of_unknown`).
-/

namespace SymbolIndex.Settings

open Json

variable {s : Settings} {m : Members} {key k : Key} {value : Value} {name given : String}

/-- A text stands for a value of a setting, and the loader gives this value back. -/
structure Accepted (m : Members) (name given : String) (key : Key) (value : Value) : Prop where
  known : Key.ofName? name = some key
  parsed : parseValue key given = .ok value
  readBack : (ofMembers (m.put key.name value.toJson)).get key = value

/-- Why a change is not made: no setting has the name, the text stands for no value of the
setting, or the loader would not give the value back. -/
inductive Rejected (m : Members) (name given : String) : Prop where
  | unknown (h : Key.ofName? name = none)
  | unparsed {key : Key} {e : UpdateError} (hk : Key.ofName? name = some key)
    (h : parseValue key given = .error e)
  | lost {key : Key} {value : Value} (hk : Key.ofName? name = some key)
    (hv : parseValue key given = .ok value)
    (h : (ofMembers (m.put key.name value.toJson)).get key ≠ value)

theorem Accepted.not_rejected (h : Accepted m name given key value) : ¬ Rejected m name given := by
  rintro (hnone | ⟨hk, herror⟩ | ⟨hk, hv, hlost⟩)
  · rw [h.known] at hnone
    cases hnone
  · obtain rfl := Option.some.inj (h.known.symm.trans hk)
    rw [h.parsed] at herror
    cases herror
  · obtain rfl := Option.some.inj (h.known.symm.trans hk)
    obtain rfl := Except.ok.inj (h.parsed.symm.trans hv)
    exact hlost h.readBack

theorem exists_accepted (h : ¬ Rejected m name given) : ∃ key value, Accepted m name given key value := by
  cases hk : Key.ofName? name with
  | none => exact absurd (.unknown hk) h
  | some key =>
    cases hv : parseValue key given with
    | error e => exact absurd (.unparsed hk hv) h
    | ok value => exact ⟨key, value, hk, hv, not_not.1 fun hlost => h (.lost hk hv hlost)⟩

/-! ### The settings that result -/

/-- The settings of members after a change. -/
def changed (m : Members) (key : Key) (value : Value) : Settings :=
  ofMembers ((ofMembers m).toMembers.put key.name value.toJson)

theorem get?_changed (h : k ≠ key) :
    ((ofMembers m).toMembers.put key.name value.toJson).get? k.name =
      some ((ofMembers m).get k).toJson := by
  rw [Members.get?_put_of_ne _ _ fun heq => h (name_injective heq), get?_toMembers]

/-- The loader gives the value back whether it finds it among the members of the file or among the
settings in force. -/
theorem get_changed_self (m : Members) (key : Key) (value : Value) :
    (changed m key value).get key = (ofMembers (m.put key.name value.toJson)).get key :=
  get_change_self (Members.get?_put_self _ _ _) fun _ => get?_changed

theorem update_eq_ok {u : Settings} : (ofMembers m).update name given = .ok u ↔
    ∃ key value, Accepted m name given key value ∧ changed m key value = u := by
  unfold update
  constructor
  · intro h
    split at h
    · cases h
    · rename_i key hk
      obtain ⟨value, hv, h⟩ := bind_eq_ok.1 h
      dsimp only at h
      split at h
      · rename_i hback
        cases h
        exact ⟨key, value, ⟨hk, hv, (get_changed_self m key value).symm.trans hback⟩, rfl⟩
      · cases h
  · rintro ⟨key, value, h, rfl⟩
    rw [h.known]
    refine bind_eq_ok.2 ⟨value, h.parsed, ?_⟩
    exact if_pos ((get_changed_self m key value).trans h.readBack)

theorem exists_update_error :
    (∃ e, (ofMembers m).update name given = .error e) ↔ Rejected m name given := by
  constructor
  · rintro ⟨e, h⟩
    unfold update at h
    split at h
    · exact .unknown ‹_›
    · rename_i key hk
      rcases bind_eq_error.1 h with herror | ⟨value, hv, h⟩
      · exact .unparsed hk herror
      · refine .lost hk hv fun hback => ?_
        dsimp only at h
        split at h
        · cases h
        · rename_i hnot
          exact hnot ((get_changed_self m key value).trans hback)
  · intro h
    cases hu : (ofMembers m).update name given with
    | error e => exact ⟨e, rfl⟩
    | ok u =>
      obtain ⟨key, value, haccepted, -⟩ := update_eq_ok.1 hu
      exact absurd h haccepted.not_rejected

theorem alpha_of_scheme {a : Partition.Scheme} : Value.text a.name = .text "alpha" ↔ a = .alpha := by
  cases a <;> decide

/-- Apart from the changed setting, only the shard count may differ: it goes with the scheme that
has one. -/
theorem Accepted.get_changed_of_ne (h : Accepted m name given key value) (hk : k ≠ key) :
    (changed m key value).get k =
      if key = .scheme ∧ value = .text "alpha" ∧ k = .shardCount then .none
      else (ofMembers m).get k := by
  have hself : (changed m key value).get key = value :=
    (get_changed_self m key value).trans h.readBack
  have hne : (changed m key value).get k =
      if k = .shardCount ∧ (changed m key value).scheme = .alpha then .none
      else (ofMembers m).get k := get_change_of_ne (fun _ => get?_changed) hk
  by_cases hcount : k = .shardCount
  · subst k
    by_cases hscheme : key = .scheme
    · subst key
      have htext : Value.text (changed m .scheme value).scheme.name = value := hself
      have halpha : value = .text "alpha" ↔ (changed m .scheme value).scheme = .alpha := by
        rw [← alpha_of_scheme, htext]
      rw [hne]
      exact if_congr ⟨fun h => ⟨rfl, halpha.2 h.2, rfl⟩, fun h => ⟨rfl, halpha.1 h.2.1⟩⟩ rfl rfl
    · have hsame : (changed m key value).scheme = (ofMembers m).scheme :=
        scheme_change (fun _ => get?_changed) hscheme
      rw [if_neg fun hboth => hscheme hboth.1, hne, hsame]
      split
      · rename_i halpha
        rw [get_ofMembers, halpha.2]
        rfl
      · rfl
  · rw [if_neg fun hall => hcount hall.2.2, hne, if_neg fun hboth => hcount hboth.1]

/-! ### The members that are saved -/

theorem get?_mergeMembers (m : Members) (s : Settings) (k : Key) :
    (mergeMembers m s).get? k.name = some (s.get k).toJson := by
  rw [mergeMembers, Members.get?_foldl_put s.nodup_toMembers, get?_toMembers, Option.some_or]

/-- Members that are no settings keep their values. -/
theorem get?_mergeMembers_of_unknown (h : Key.ofName? name = none) (m : Members) (s : Settings) :
    (mergeMembers m s).get? name = m.get? name := by
  rw [mergeMembers, Members.get?_foldl_put s.nodup_toMembers, get?_toMembers_of_unknown h,
    Option.none_or]

/-! ### Values that can be written -/

theorem decoded_parseValue (h : parseValue key given = .ok value) : Decoded value.toJson := by
  have hnumber : ∀ {n : Int}, Text.Numeral.read? (Unicode.trim given.toList) = some n →
      Decoded (Value.number n).toJson := fun hn => .int (Text.Numeral.length_toDigits_of_read? hn)
  cases key with
  | strict =>
    simp only [parseValue] at h
    split at h
    · cases h
      exact .bool _
    · cases h
  | shardCount | resultLimit =>
    simp only [parseValue] at h
    split at h
    · cases h
      exact .null
    · split at h
      · cases h
        exact hnumber ‹_›
      · cases h
  | loadWorkers =>
    simp only [parseValue] at h
    split at h
    · cases h
      exact hnumber ‹_›
    · cases h
  | scheme | matchMode | style =>
    cases h
    exact .str _

theorem decoded_ofNat? {a : Option Nat} (h : ∀ n, a = some n → Decoded (.int n)) :
    Decoded (Value.ofNat? a).toJson := by
  cases a with
  | none => exact .null
  | some n => exact h n rfl

theorem decoded_reading {v : Option Json} (h : ∀ w, v = some w → Decoded w)
    (scheme : Partition.Scheme) (k : Key) : Decoded (k.reading scheme v).toJson := by
  have hpositive : ∀ n, positive? v = some n → Decoded (.int n) := fun n hn =>
    h _ (positive?_eq_some hn).2
  cases k with
  | strict => exact .bool _
  | scheme | matchMode | style => exact .str _
  | shardCount =>
    cases scheme with
    | alpha => exact .null
    | hashed => exact decoded_ofNat? hpositive
  | resultLimit => exact decoded_ofNat? hpositive
  | loadWorkers =>
    show Decoded (.int ((positive? v).getD default.loadWorkers : Nat))
    cases hn : positive? v with
    | none => exact .int (by decide)
    | some n => exact hpositive n hn

theorem decoded_get (hm : Decoded (.obj m)) (k : Key) : Decoded ((ofMembers m).get k).toJson := by
  cases hm with
  | obj hn hvalues =>
    rw [get_ofMembers]
    exact decoded_reading (fun w hw => hvalues _ ((Members.get?_eq_some hn).1 hw)) _ k

theorem Accepted.decoded_get (h : Accepted m name given key value) (hm : Decoded (.obj m))
    (k : Key) : Decoded ((changed m key value).get k).toJson := by
  by_cases hk : k = key
  · subst k
    rw [get_changed_self, h.readBack]
    exact decoded_parseValue h.parsed
  · rw [h.get_changed_of_ne hk]
    split
    · exact .null
    · exact Settings.decoded_get hm k

/-- The members that are saved can be written and read back. -/
theorem decoded_mergeMembers (hm : Decoded (.obj m)) (hs : ∀ k, Decoded (s.get k).toJson) :
    Decoded (.obj (mergeMembers m s)) := by
  cases hm with
  | obj hn hvalues =>
    refine .obj (Members.nodup_foldl_put hn _) fun e he => ?_
    rcases Members.mem_foldl_put he with he | he
    · exact hvalues e he
    · obtain ⟨k, _, rfl⟩ := List.mem_map.1 he
      exact hs k

end SymbolIndex.Settings
