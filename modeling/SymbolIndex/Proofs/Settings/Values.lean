import Mathlib.Data.List.DropRight
import SymbolIndex.Proofs.Json.Members
import SymbolIndex.Settings.Basic

/-!
# The values of settings

Each setting is read from the value of its own name, and the shard count from the scheme too
(`get_ofMembers`). What is read is a value that the setting can have (`admits_reading`), and such a
value is read back as it is (`reading_of_admits`). So the settings that reading gives are the valid
ones (`valid_iff`), and a change of one of them changes nothing but that one, and the shard count if
the scheme becomes alphabetic (`get_change_self`, `get_change_of_ne`).
-/

namespace SymbolIndex

/-! ### Blanks -/

namespace Unicode

theorem trimEnd_trimEnd (s : List Char) : trimEnd (trimEnd s) = trimEnd s :=
  List.rdropWhile_idempotent isBlank s

/-- Cutting blanks off the end leaves none in front of what is left. -/
theorem trimStart_trim (s : List Char) : trimStart (trim s) = trim s := by
  have hprefix : trim s <+: trimStart s := List.rdropWhile_prefix isBlank (trimStart s)
  cases ht : trim s with
  | nil => rfl
  | cons c t =>
    obtain ⟨rest, hrest⟩ := hprefix
    rw [ht, List.cons_append] at hrest
    have hc : ¬ isBlank c = true := by
      have hself : List.dropWhile isBlank (trimStart s) = trimStart s :=
        List.dropWhile_idempotent isBlank s
      rw [← hrest, List.dropWhile_eq_self_iff] at hself
      exact hself (Nat.zero_lt_succ _)
    exact List.dropWhile_cons_of_neg hc

theorem trim_trim (s : List Char) : trim (trim s) = trim s := by
  rw [trim, trimStart_trim, trim, trimEnd_trimEnd]

/-- A text that neither begins nor ends with a blank. -/
structure Bare (s : List Char) : Prop where
  head : ∀ c ∈ s.head?, isBlank c = false
  last : ∀ c ∈ s.getLast?, isBlank c = false

theorem trimStart_eq_self_iff {s : List Char} :
    trimStart s = s ↔ ∀ c ∈ s.head?, isBlank c = false := by
  cases s with
  | nil => exact iff_of_true rfl nofun
  | cons c s =>
    rw [trimStart, List.dropWhile_eq_self_iff]
    simp

theorem trimEnd_eq_self_iff {s : List Char} :
    trimEnd s = s ↔ ∀ c ∈ s.getLast?, isBlank c = false := by
  rw [trimEnd, List.reverse_eq_iff, ← List.head?_reverse]
  exact trimStart_eq_self_iff

theorem trim_eq_self_iff {s : List Char} : trim s = s ↔ Bare s := by
  constructor
  · intro h
    have hstart : trimStart s = s := by
      have hkeep := trimStart_trim s
      rwa [h] at hkeep
    rw [trim, hstart] at h
    exact ⟨trimStart_eq_self_iff.1 hstart, trimEnd_eq_self_iff.1 h⟩
  · intro h
    rw [trim, trimStart_eq_self_iff.2 h.head, trimEnd_eq_self_iff.2 h.last]

theorem bare_trim (s : List Char) : Bare (trim s) := trim_eq_self_iff.1 (trim_trim s)

end Unicode

namespace Settings

variable {s : Settings} {m m' : Json.Members} {k key : Key} {v : Json} {value : Value}
  {scheme : Partition.Scheme} {name : String}

/-! ### Names -/

theorem ofName?_name (k : Key) : Key.ofName? k.name = some k := by
  cases k <;> rfl

theorem name_injective {k k' : Key} (h : k.name = k'.name) : k = k' := by
  have hsome := ofName?_name k
  rw [h, ofName?_name] at hsome
  exact (Option.some.inj hsome).symm

theorem get?_toMembers (s : Settings) (k : Key) :
    s.toMembers.get? k.name = some (s.get k).toJson := by
  cases k <;> rfl

theorem get?_toMembers_of_unknown (h : Key.ofName? name = none) : s.toMembers.get? name = none := by
  rw [Json.Members.get?_eq_none]
  intro hmem
  rw [toMembers, Json.Members.names, List.map_map] at hmem
  obtain ⟨k, _, rfl⟩ := List.mem_map.1 hmem
  rw [Function.comp_apply, ofName?_name] at h
  cases h

theorem nodup_toMembers (s : Settings) : s.toMembers.names.Nodup := by
  have hnames : s.toMembers.names = Key.all.map Key.name := rfl
  rw [hnames]
  decide

/-! ### Reading one setting -/

/-- The value of a setting that the members give a value or none, under a scheme. -/
def Key.reading (scheme : Partition.Scheme) (v : Option Json) : Key → Value
  | .strict => .flag (match v with
      | some (.bool b) => b
      | _ => default.strict)
  | .scheme => .text (choice Partition.Scheme.ofName? default.scheme v).name
  | .shardCount => .ofNat? (if scheme = .alpha then none else positive? v)
  | .matchMode => .text (choice MatchMode.ofName? default.matchMode v).name
  | .resultLimit => .ofNat? (positive? v)
  | .loadWorkers => .number ((positive? v).getD default.loadWorkers)
  | .style => .text (trimmed default.style v)

theorem get_ofMembers (m : Json.Members) (k : Key) :
    (ofMembers m).get k = k.reading (ofMembers m).scheme (m.get? k.name) := by
  cases k <;> rfl

theorem scheme_ofMembers (m : Json.Members) : (ofMembers m).scheme =
    choice Partition.Scheme.ofName? default.scheme (m.get? Key.scheme.name) := rfl

/-- Only the shard count depends on the scheme. -/
theorem reading_congr (h : k ≠ .shardCount) (a b : Partition.Scheme) (v : Option Json) :
    k.reading a v = k.reading b v := by
  cases k <;> first | rfl | exact absurd rfl h

theorem choice_scheme (a : Partition.Scheme) :
    choice Partition.Scheme.ofName? default.scheme (some (.str a.name)) = a := by
  cases a <;> decide +kernel

theorem choice_matchMode (a : MatchMode) :
    choice MatchMode.ofName? default.matchMode (some (.str a.name)) = a := by
  cases a <;> decide +kernel

theorem positive?_eq_some {v : Option Json} {n : Nat} (h : positive? v = some n) :
    0 < n ∧ v = some (.int n) := by
  unfold positive? at h
  split at h
  · split at h
    · cases h
      exact ⟨by omega, by rw [Int.toNat_of_nonneg (by omega)]⟩
    · cases h
  · cases h

theorem positive?_int {n : Int} (h : 0 < n) : positive? (some (.int n)) = some n.toNat := if_pos h

/-! ### The values of one setting -/

/-- A value that a setting can have under a scheme. -/
def Key.Admits (scheme : Partition.Scheme) (value : Value) : Key → Prop
  | .strict => ∃ b, value = .flag b
  | .scheme => value = .text "alpha" ∨ value = .text "hashed"
  | .shardCount => value = .none ∨ scheme ≠ .alpha ∧ ∃ n, 0 < n ∧ value = .number n
  | .matchMode => value = .text "substring" ∨ value = .text "prefix"
  | .resultLimit => value = .none ∨ ∃ n, 0 < n ∧ value = .number n
  | .loadWorkers => ∃ n, 0 < n ∧ value = .number n
  | .style => ∃ t, t ≠ "" ∧ Unicode.Bare t.toList ∧ value = .text t

theorem ofNat?_positive? (v : Option Json) : Value.ofNat? (positive? v) = .none ∨
    ∃ n, 0 < n ∧ Value.ofNat? (positive? v) = .number n := by
  cases h : positive? v with
  | none => exact .inl rfl
  | some n =>
    have hn := (positive?_eq_some h).1
    exact .inr ⟨n, by omega, rfl⟩

theorem text_scheme (a : Partition.Scheme) :
    Value.text a.name = .text "alpha" ∨ Value.text a.name = .text "hashed" := by
  cases a with
  | alpha => exact .inl rfl
  | hashed => exact .inr rfl

theorem text_matchMode (a : MatchMode) :
    Value.text a.name = .text "substring" ∨ Value.text a.name = .text "prefix" := by
  cases a with
  | anywhere => exact .inl rfl
  | start => exact .inr rfl

/-- The text of a style is not blank, and has no blanks around it. -/
theorem trimmed_style (v : Option Json) :
    trimmed default.style v ≠ "" ∧ Unicode.Bare (trimmed default.style v).toList := by
  have hdefault : default.style ≠ "" ∧ Unicode.Bare default.style.toList :=
    ⟨by decide, Unicode.trim_eq_self_iff.1 (by decide +kernel)⟩
  unfold trimmed
  split
  · rename_i s
    dsimp only
    split
    · exact hdefault
    · rename_i hne
      rw [String.toList_ofList]
      refine ⟨fun h => hne ?_, Unicode.bare_trim _⟩
      exact String.ofList_eq_empty_iff.1 h
  · exact hdefault

theorem admits_reading (scheme : Partition.Scheme) (v : Option Json) (k : Key) :
    k.Admits scheme (k.reading scheme v) := by
  cases k with
  | strict => exact ⟨_, rfl⟩
  | scheme => exact text_scheme _
  | shardCount =>
    cases scheme with
    | alpha => exact .inl rfl
    | hashed => exact (ofNat?_positive? v).imp id fun hnumber => ⟨by decide, hnumber⟩
  | matchMode => exact text_matchMode _
  | resultLimit => exact ofNat?_positive? v
  | loadWorkers =>
    refine ⟨_, ?_, rfl⟩
    cases h : positive? v with
    | none => decide
    | some n =>
      have hn := (positive?_eq_some h).1
      rw [Option.getD_some]
      omega
  | style =>
    obtain ⟨hne, hbare⟩ := trimmed_style v
    exact ⟨_, hne, hbare, rfl⟩

/-- A value that a setting can have is read back as it is. -/
theorem reading_of_admits {scheme : Partition.Scheme} (h : k.Admits scheme value) :
    k.reading scheme (some value.toJson) = value := by
  have hnumber : ∀ n : Int, 0 < n → Value.ofNat? (positive? (some (.int n))) = .number n := by
    intro n hn
    rw [positive?_int hn]
    exact congrArg Value.number (Int.toNat_of_nonneg (by omega))
  cases k with
  | strict =>
    obtain ⟨b, rfl⟩ := h
    rfl
  | scheme =>
    rcases h with rfl | rfl
    · exact congrArg (fun a => Value.text a.name) (choice_scheme .alpha)
    · exact congrArg (fun a => Value.text a.name) (choice_scheme .hashed)
  | shardCount =>
    rcases h with rfl | ⟨hscheme, n, hn, rfl⟩
    · exact congrArg Value.ofNat? (ite_self none)
    · exact (congrArg Value.ofNat? (if_neg hscheme)).trans (hnumber n hn)
  | matchMode =>
    rcases h with rfl | rfl
    · exact congrArg (fun a => Value.text a.name) (choice_matchMode .anywhere)
    · exact congrArg (fun a => Value.text a.name) (choice_matchMode .start)
  | resultLimit =>
    rcases h with rfl | ⟨n, hn, rfl⟩
    · rfl
    · exact hnumber n hn
  | loadWorkers =>
    obtain ⟨n, hn, rfl⟩ := h
    show Value.number ((positive? (some (.int n))).getD default.loadWorkers : Nat) = .number n
    rw [positive?_int hn, Option.getD_some, Int.toNat_of_nonneg (by omega)]
  | style =>
    obtain ⟨t, hne, hbare, rfl⟩ := h
    have hchars : t.toList ≠ [] := by simpa using hne
    show Value.text (trimmed default.style (some (.str t))) = .text t
    rw [trimmed, Unicode.trim_eq_self_iff.2 hbare]
    exact congrArg Value.text ((if_neg hchars).trans String.ofList_toList)

/-- What was read is read back as it is. -/
theorem reading_reading (scheme : Partition.Scheme) (v : Option Json) (k : Key) :
    k.reading scheme (some (k.reading scheme v).toJson) = k.reading scheme v :=
  reading_of_admits (admits_reading scheme v k)

/-- A shard count stays as it is under a scheme that has one. -/
theorem reading_shardCount {a : Partition.Scheme} (h : a ≠ .alpha) (b : Partition.Scheme)
    (v : Option Json) : Key.reading a (some (Key.reading b v .shardCount).toJson) .shardCount =
      Key.reading b v .shardCount := by
  have hadmits : Key.shardCount.Admits a (Key.reading b v .shardCount) :=
    Or.imp id (fun hnumber => ⟨h, hnumber.2⟩) (admits_reading b v .shardCount)
  exact reading_of_admits hadmits

/-! ### Reading all settings -/

theorem scheme_name_injective {a b : Partition.Scheme} (h : a.name = b.name) : a = b := by
  cases a <;> cases b <;> first | rfl | exact absurd h (by decide)

theorem matchMode_name_injective {a b : MatchMode} (h : a.name = b.name) : a = b := by
  cases a <;> cases b <;> first | rfl | exact absurd h (by decide)

theorem ofNat?_injective {a b : Option Nat} (h : Value.ofNat? a = Value.ofNat? b) : a = b := by
  cases a with
  | none =>
    cases b with
    | none => rfl
    | some b => cases h
  | some a =>
    cases b with
    | none => cases h
    | some b => exact congrArg some (Int.ofNat.inj (Value.number.inj h))

/-- Settings are the same if each has the same value. -/
theorem eq_of_get {t : Settings} (h : ∀ k, s.get k = t.get k) : s = t := by
  obtain ⟨strict, scheme, shardCount, matchMode, resultLimit, loadWorkers, style⟩ := s
  obtain ⟨strict', scheme', shardCount', matchMode', resultLimit', loadWorkers', style'⟩ := t
  obtain rfl : strict = strict' := Value.flag.inj (h .strict)
  obtain rfl : scheme = scheme' := scheme_name_injective (Value.text.inj (h .scheme))
  obtain rfl : shardCount = shardCount' := ofNat?_injective (h .shardCount)
  obtain rfl : matchMode = matchMode' := matchMode_name_injective (Value.text.inj (h .matchMode))
  obtain rfl : resultLimit = resultLimit' := ofNat?_injective (h .resultLimit)
  obtain rfl : loadWorkers = loadWorkers' := Int.ofNat.inj (Value.number.inj (h .loadWorkers))
  obtain rfl : style = style' := Value.text.inj (h .style)
  rfl

/-- Each setting has a value that it can have. -/
def Valid (s : Settings) : Prop := ∀ k : Key, k.Admits s.scheme (s.get k)

theorem valid_ofMembers (m : Json.Members) : (ofMembers m).Valid := by
  intro k
  rw [get_ofMembers]
  exact admits_reading _ _ k

/-- Valid settings are read back from members that give them their values. -/
theorem Valid.ofMembers_eq (h : s.Valid)
    (hm : ∀ k : Key, m.get? k.name = some (s.get k).toJson) : ofMembers m = s := by
  have hscheme : (ofMembers m).scheme = s.scheme := by
    rw [scheme_ofMembers, hm]
    exact choice_scheme _
  -- With the scheme known, each setting is read from its own member.
  refine eq_of_get fun k => ?_
  rw [get_ofMembers, hscheme, hm, reading_of_admits (h k)]

theorem Valid.ofMembers_toMembers (h : s.Valid) : ofMembers s.toMembers = s :=
  h.ofMembers_eq s.get?_toMembers

/-- The valid settings are those that reading gives. -/
theorem valid_iff : s.Valid ↔ ∃ m, ofMembers m = s := by
  constructor
  · exact fun h => ⟨s.toMembers, h.ofMembers_toMembers⟩
  · rintro ⟨m, rfl⟩
    exact valid_ofMembers m

/-! ### Changing one setting -/

section
variable (hkey : m'.get? key.name = some v)
  (hothers : ∀ k : Key, k ≠ key → m'.get? k.name = some ((ofMembers m).get k).toJson)
include hothers

theorem scheme_change (h : key ≠ .scheme) : (ofMembers m').scheme = (ofMembers m).scheme := by
  rw [scheme_ofMembers, hothers .scheme (Ne.symm h)]
  exact choice_scheme _

include hkey in
/-- Whether a new value is read back does not depend on the other settings being read first. -/
theorem get_change_self : (ofMembers m').get key = (ofMembers (m.put key.name v)).get key := by
  rw [get_ofMembers, get_ofMembers, hkey, Json.Members.get?_put_self]
  by_cases h : key = .shardCount
  · subst key
    have hname : Key.scheme.name ≠ Key.shardCount.name := by decide
    rw [scheme_change hothers (by decide), scheme_ofMembers, scheme_ofMembers,
      Json.Members.get?_put_of_ne m v hname]
  · exact reading_congr h _ _ _

theorem get_change_of_ne (h : k ≠ key) : (ofMembers m').get k =
    if k = .shardCount ∧ (ofMembers m').scheme = .alpha then .none else (ofMembers m).get k := by
  rw [get_ofMembers m', hothers k h, get_ofMembers m]
  by_cases hk : k = .shardCount
  · subst k
    by_cases halpha : (ofMembers m').scheme = .alpha
    · rw [if_pos ⟨rfl, halpha⟩, halpha]
      rfl
    · rw [if_neg fun hboth => halpha hboth.2, reading_shardCount halpha]
  · rw [if_neg fun hboth => hk hboth.1, reading_congr hk _ (ofMembers m).scheme, reading_reading]

end

end Settings

end SymbolIndex
