import Mathlib.Data.List.TakeWhile
import SymbolIndex.Proofs.Except
import SymbolIndex.Proofs.Json.Controls

/-!
# What the reader gives

A value that was read has no whole number of too many digits, no floating point number that
rounding does not give, and no object with two members of one name (`decoded_of_read`). So it can
be written and read back, and what comes back is the same value up to the order of members
(`Decoded.alike_sorted`).
-/

namespace SymbolIndex.Json

variable {α β : Type} {s : List Char}

inductive Decoded : Json → Prop where
  | null : Decoded .null
  | bool (b : Bool) : Decoded (.bool b)
  | int {n : Int} (h : (Nat.toDigits 10 n.natAbs).length ≤ Text.Numeral.maxDigits) :
    Decoded (.int n)
  | float {x : Number.Binary64} (h : x.Proper) : Decoded (.float x)
  | str (s : String) : Decoded (.str s)
  | arr {vs : List Json} (h : ∀ v ∈ vs, Decoded v) : Decoded (.arr vs)
  | obj {ms : Members} (hn : ms.names.Nodup) (h : ∀ m ∈ ms, Decoded m.2) : Decoded (.obj ms)

theorem Decoded.writable {v : Json} (h : Decoded v) : Writable v := by
  induction h with
  | null => exact .null
  | bool b => exact .bool b
  | int h => exact .int h
  | float h => exact .float h
  | str s => exact .str s
  | arr _ ih => exact .arr ih
  | obj _ _ ih => exact .obj ih

/-! ### Reading -/

/-- What was read, if anything was, meets a condition. -/
def Returns (P : α → Prop) (r : Except Stop (α × List Char)) : Prop :=
  ∀ a rest, r = .ok (a, rest) → P a

theorem returns_stopAt {P : α → Prop} (problem : Problem) (rest : List Char) :
    Returns P (stopAt problem rest) := nofun

theorem returns_ok {P : α → Prop} {a : α} {rest : List Char} (h : P a) :
    Returns P (.ok (a, rest)) := by
  intro b _ heq
  cases heq
  exact h

theorem Returns.bind {P : α → Prop} {Q : β → Prop} {x : Except Stop (α × List Char)}
    {f : α × List Char → Except Stop (β × List Char)} (hx : Returns P x)
    (hf : ∀ a rest, P a → Returns Q (f (a, rest))) : Returns Q (x >>= f) := by
  intro b rest h
  obtain ⟨⟨a, rest'⟩, ha, h⟩ := bind_eq_ok.1 h
  exact hf a rest' (hx a rest' ha) b rest h

theorem ofDigitChars_lt {ds : List Char} (hd : ∀ c ∈ ds, c.isDigit = true) :
    Nat.ofDigitChars 10 ds 0 < 10 ^ ds.length := by
  induction ds with
  | nil => decide
  | cons c ds ih =>
    have hc := hd c List.mem_cons_self
    rw [Char.isDigit_iff_toNat] at hc
    have hzero : '0'.toNat = 48 := rfl
    have hnine : '9'.toNat = 57 := rfl
    have hrest := ih fun d hd' => hd d (List.mem_cons_of_mem c hd')
    have hfirst : 10 ^ ds.length * (c.toNat - '0'.toNat) ≤ 10 ^ ds.length * 9 :=
      Nat.mul_le_mul_left _ (by omega)
    rw [Nat.ofDigitChars_cons, Nat.mul_zero, Nat.zero_add,
      Nat.ofDigitChars_eq_ofDigitChars_zero, List.length_cons, Nat.pow_succ]
    omega

theorem isDigit_of_wholePart? {whole rest : List Char} (h : wholePart? s = some (whole, rest)) :
    whole ≠ [] ∧ ∀ c ∈ whole, c.isDigit = true := by
  unfold wholePart? at h
  split at h
  · cases h
  · cases h
    exact ⟨List.cons_ne_nil _ _, List.forall_mem_singleton.2 rfl⟩
  · split at h
    · rename_i c t _ hc
      have hwhole : (digits (c :: t)).1 = whole := congrArg Prod.fst (Option.some.inj h)
      subst whole
      refine ⟨?_, fun d hd => List.mem_takeWhile_imp hd⟩
      rw [digits, List.takeWhile_cons_of_pos hc]
      exact List.cons_ne_nil _ _
    · cases h

theorem decoded_int {whole : List Char} (negative : Bool) (hne : whole ≠ [])
    (hd : ∀ c ∈ whole, c.isDigit = true) (hlen : whole.length ≤ Text.Numeral.maxDigits) :
    Decoded (.int (if negative then -(Nat.ofDigitChars 10 whole 0 : Int)
      else Nat.ofDigitChars 10 whole 0)) := by
  have habs : (if negative then -(Nat.ofDigitChars 10 whole 0 : Int)
      else Nat.ofDigitChars 10 whole 0).natAbs = Nat.ofDigitChars 10 whole 0 := by
    split <;> omega
  refine .int ?_
  rw [habs]
  refine Nat.le_trans ?_ hlen
  exact (Nat.length_toDigits_le_iff (by decide) (List.length_pos_iff.2 hne)).2 (ofDigitChars_lt hd)

theorem decoded_number? {negative : Bool} {r : Except Stop (Json × List Char)}
    (h : number? negative s = some r) : Returns Decoded r := by
  unfold number? at h
  obtain ⟨⟨whole, rest⟩, hwhole, h⟩ := Option.bind_eq_some_iff.1 h
  obtain ⟨hne, hd⟩ := isDigit_of_wholePart? hwhole
  dsimp only at h
  split at h
  · cases h
    exact returns_ok (.float (Number.Binary64.proper_ofDecimal _ _ _))
  · split at h
    · rename_i hfrac
      rw [List.isEmpty_iff.1 hfrac, List.append_nil] at h
      split at h
      · cases h
        exact nofun
      · rename_i hlen
        cases h
        exact returns_ok (decoded_int negative hne hd (Nat.not_lt.1 hlen))
    · cases h
      exact returns_ok (.float (Number.Binary64.proper_ofDecimal _ _ _))

theorem decoded_getD_number? {negative : Bool} (problem : Problem) (whole : List Char) :
    Returns Decoded ((number? negative s).getD (stopAt problem whole)) := by
  cases h : number? negative s with
  | none => exact returns_stopAt _ _
  | some r => exact decoded_number? h

theorem decoded_scalar (s : List Char) : Returns Decoded (scalar s) := by
  unfold scalar
  split
  case h_1 => exact returns_ok .null
  case h_2 => exact returns_ok (.bool true)
  case h_3 => exact returns_ok (.bool false)
  case h_4 => exact returns_ok (.float trivial)
  case h_5 => exact returns_ok (.float trivial)
  case h_6 => exact returns_ok (.float trivial)
  case h_7 => exact decoded_getD_number? _ _
  case h_8 => exact decoded_getD_number? _ _

/-! One step of each of the three functions that call each other, and from these, by induction on
the fuel that they share, all of them. -/

section
variable {fuel : Nat}

theorem returns_value (hitems : ∀ s, Returns (∀ v ∈ ·, Decoded v) (items fuel s))
    (hmembers : ∀ s, Returns (∀ m ∈ ·, Decoded m.2) (members fuel s)) (s : List Char) :
    Returns Decoded (value (fuel + 1) s) := by
  rw [value.eq_def]
  dsimp only
  split
  · exact Returns.bind (P := fun _ => True) (fun _ _ _ => trivial)
      fun _ _ _ => returns_ok (.str _)
  · split
    · exact returns_ok (.arr (List.forall_mem_nil _))
    · exact (hitems _).bind fun vs _ hvs => returns_ok (.arr hvs)
  · split
    · exact returns_ok (.obj List.nodup_nil (List.forall_mem_nil _))
    · exact (hmembers _).bind fun ms _ hms => returns_ok (.obj (Members.nodup_ofList ms)
        fun m hm => hms m (Members.mem_of_mem_ofList hm))
  · exact decoded_scalar s

theorem returns_items (hvalue : ∀ s, Returns Decoded (value fuel s))
    (hitems : ∀ s, Returns (∀ v ∈ ·, Decoded v) (items fuel s)) (s : List Char) :
    Returns (∀ v ∈ ·, Decoded v) (items (fuel + 1) s) := by
  rw [items]
  refine (hvalue s).bind fun v rest hv => ?_
  dsimp only
  split
  · exact returns_ok (List.forall_mem_singleton.2 hv)
  · exact (hitems _).bind fun vs _ hvs => returns_ok (List.forall_mem_cons.2 ⟨hv, hvs⟩)
  · exact returns_stopAt _ _

theorem returns_members (hvalue : ∀ s, Returns Decoded (value fuel s))
    (hmembers : ∀ s, Returns (∀ m ∈ ·, Decoded m.2) (members fuel s)) (s : List Char) :
    Returns (∀ m ∈ ·, Decoded m.2) (members (fuel + 1) s) := by
  rw [members.eq_def]
  dsimp only
  split
  · refine Returns.bind (P := fun _ => True) (fun _ _ _ => trivial) fun name rest _ => ?_
    dsimp only
    split
    · refine (hvalue _).bind fun v rest' hv => ?_
      dsimp only
      split
      · exact returns_ok (List.forall_mem_singleton.2 hv)
      · exact (hmembers _).bind fun ms _ hms => returns_ok (List.forall_mem_cons.2 ⟨hv, hms⟩)
      · exact returns_stopAt _ _
    · exact returns_stopAt _ _
  · exact returns_stopAt _ _

end

theorem decoded_values (fuel : Nat) : (∀ s, Returns Decoded (value fuel s)) ∧
    (∀ s, Returns (∀ v ∈ ·, Decoded v) (items fuel s)) ∧
    ∀ s, Returns (∀ m ∈ ·, Decoded m.2) (members fuel s) := by
  induction fuel with
  | zero =>
    refine ⟨fun s => ?_, fun s => ?_, fun s => ?_⟩
    · rw [value]; exact returns_stopAt _ _
    · rw [items]; exact returns_stopAt _ _
    · rw [members]; exact returns_stopAt _ _
  | succ fuel ih =>
    obtain ⟨hvalue, hitems, hmembers⟩ := ih
    exact ⟨returns_value hitems hmembers, returns_items hvalue hitems,
      returns_members hvalue hmembers⟩

theorem decoded_of_read {v : Json} (h : read s = .ok v) : Decoded v := by
  unfold read at h
  split at h
  · cases h
  have hd := mapError_eq_ok.1 h
  unfold document at hd
  obtain ⟨⟨a, rest⟩, ha, hd⟩ := bind_eq_ok.1 hd
  dsimp only at hd
  split at hd
  · cases hd
    exact (decoded_values _).1 _ _ _ ha
  · cases hd

/-! ### The same value -/

/-- Two values differ at most in the order of the members of their objects. -/
inductive Alike : Json → Json → Prop where
  | null : Alike .null .null
  | bool (b : Bool) : Alike (.bool b) (.bool b)
  | int (n : Int) : Alike (.int n) (.int n)
  | float (x : Number.Binary64) : Alike (.float x) (.float x)
  | str (s : String) : Alike (.str s) (.str s)
  | arr {vs vs' : List Json} (h : List.Forall₂ Alike vs vs') : Alike (.arr vs) (.arr vs')
  | obj {ms ms' : Members} (h : ∀ name, Option.Rel Alike (ms.get? name) (ms'.get? name)) :
    Alike (.obj ms) (.obj ms')

/-- A name keeps its value when the members are put in order. -/
theorem get?_sortByName {ms : Members} (hn : ms.names.Nodup) (name : String) :
    (sortByName (sortedMembers ms)).get? name = (ms.get? name).map sorted := by
  cases h : ms.get? name with
  | none =>
    rw [Option.map_none, Members.get?_eq_none]
    rw [Members.get?_eq_none] at h
    rwa [Members.names, ((sortByName_perm _).map _).mem_iff, ← Members.names, names_sortedMembers]
  | some v =>
    rw [Option.map_some]
    exact Members.get?_of_mem (nodup_names_sorted hn) (mem_sorted ((Members.get?_eq_some hn).1 h))

/-- Written and read back, a value is the same up to the order of members. -/
theorem Decoded.alike_sorted {v : Json} (h : Decoded v) : Alike v (sorted v) := by
  induction h with
  | null => exact .null
  | bool b => exact .bool b
  | int _ => exact .int _
  | float _ => exact .float _
  | str s => exact .str s
  | @arr vs _ ih =>
    rw [sorted, sortedItems_eq]
    refine .arr ?_
    rw [List.forall₂_map_right_iff, List.forall₂_same]
    exact ih
  | @obj ms hn _ ih =>
    rw [sorted_obj hn]
    refine .obj fun name => ?_
    rw [get?_sortByName hn]
    cases hv : ms.get? name with
    | none => exact .none
    | some v => exact .some (ih _ ((Members.get?_eq_some hn).1 hv))

/-- Putting members in order leaves strings and names as they are. -/
theorem Decoded.texts_sorted {p : Char → Prop} {v : Json} (h : Decoded v) :
    Texts p (sorted v) ↔ Texts p v := by
  induction h with
  | null => rfl
  | bool b => rfl
  | int _ => rfl
  | float _ => rfl
  | str s => rfl
  | @arr vs _ ih =>
    rw [sorted, sortedItems_eq, texts_arr_iff, texts_arr_iff, List.forall_mem_map]
    exact forall₂_congr ih
  | @obj ms hn _ ih =>
    have hmem : ∀ m, m ∈ sortByName (sortedMembers ms) ↔ m ∈ sortedMembers ms :=
      fun m => (sortByName_perm _).mem_iff
    rw [sorted_obj hn, texts_obj_iff, texts_obj_iff]
    simp only [hmem]
    rw [sortedMembers_eq, List.forall_mem_map]
    exact forall₂_congr fun m hm => and_congr_right' (ih m hm)

theorem sortByName_sortByName (ms : Members) : sortByName (sortByName ms) = sortByName ms := by
  have htrans : ∀ a b c : String × Json, decide (a.1 ≤ b.1) = true → decide (b.1 ≤ c.1) = true →
      decide (a.1 ≤ c.1) = true := by
    intro a b c hab hbc
    rw [decide_eq_true_eq] at *
    exact String.le_trans hab hbc
  have htotal : ∀ a b : String × Json, (decide (a.1 ≤ b.1) || decide (b.1 ≤ a.1)) = true := by
    intro a b
    rw [Bool.or_eq_true, decide_eq_true_eq, decide_eq_true_eq]
    exact String.le_total a.1 b.1
  exact List.mergeSort_of_pairwise (List.pairwise_mergeSort htrans htotal ms)

/-- Putting members in order once more changes nothing. -/
theorem Decoded.sorted_sorted {v : Json} (h : Decoded v) : sorted (sorted v) = sorted v := by
  induction h with
  | null => rfl
  | bool b => rfl
  | int _ => rfl
  | float _ => rfl
  | str s => rfl
  | @arr vs _ ih =>
    rw [sorted, sorted, sortedItems_eq, sortedItems_eq, List.map_map]
    exact congrArg Json.arr (List.map_congr_left ih)
  | @obj ms hn _ ih =>
    have hsame : sortedMembers (sortByName (sortedMembers ms)) = sortByName (sortedMembers ms) := by
      rw [sortedMembers_sort, sortedMembers_eq, List.map_map]
      refine List.map_congr_left fun m hm => ?_
      rw [Function.comp_apply, ih m ((sortByName_perm ms).mem_iff.1 hm)]
    rw [sorted_obj hn, sorted_obj (nodup_names_sorted hn), hsame, sortByName_sortByName]

end SymbolIndex.Json
