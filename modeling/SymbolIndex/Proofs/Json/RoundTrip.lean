import SymbolIndex.Proofs.Json.Members
import SymbolIndex.Proofs.Json.Numbers

/-!
# Reading what was written

The reader takes the one-line text of a value for that value, its members in the order of their
names (`sorted`). Values with whole numbers too long to be read are left out (`Writable`).
-/

namespace SymbolIndex.Json

def sortByName (ms : Members) : Members := ms.mergeSort fun a b => decide (a.1 ≤ b.1)

mutual

/-- A value with the members of its objects in the order of their names. -/
def sorted : Json → Json
  | .arr vs => .arr (sortedItems vs)
  | .obj ms => .obj (Members.ofList (sortByName (sortedMembers ms)))
  | v => v

def sortedItems : List Json → List Json
  | [] => []
  | v :: vs => sorted v :: sortedItems vs

def sortedMembers : Members → Members
  | [] => []
  | (name, v) :: ms => (name, sorted v) :: sortedMembers ms

end

/-- Values whose text can be read back. -/
inductive Writable : Json → Prop where
  | null : Writable .null
  | bool (b : Bool) : Writable (.bool b)
  | int {n : Int} (h : (Nat.toDigits 10 n.natAbs).length ≤ Text.Numeral.maxDigits) :
    Writable (.int n)
  | float {x : Number.Binary64} (h : x.Proper) : Writable (.float x)
  | str (s : String) : Writable (.str s)
  | arr {vs : List Json} (h : ∀ v ∈ vs, Writable v) : Writable (.arr vs)
  | obj {ms : Members} (h : ∀ m ∈ ms, Writable m.2) : Writable (.obj ms)

theorem sortedItems_eq (vs : List Json) : sortedItems vs = vs.map sorted := by
  induction vs with
  | nil => rfl
  | cons v vs ih => rw [sortedItems, ih, List.map_cons]

theorem sortedMembers_eq (ms : Members) : sortedMembers ms = ms.map fun m => (m.1, sorted m.2) := by
  induction ms with
  | nil => rfl
  | cons m ms ih => rw [sortedMembers, ih, List.map_cons]

theorem compactItems_eq (vs : List Json) : compactItems vs = vs.map compact := by
  induction vs with
  | nil => rfl
  | cons v vs ih => rw [compactItems, ih, List.map_cons]

theorem compactMembers_eq (ms : Members) :
    compactMembers ms = ms.map fun m => (m.1, compact m.2) := by
  induction ms with
  | nil => rfl
  | cons m ms ih => rw [compactMembers, ih, List.map_cons]

theorem sortByName_perm (ms : Members) : (sortByName ms).Perm ms := List.mergeSort_perm _ _

theorem names_sortedMembers (ms : Members) : (sortedMembers ms).names = ms.names := by
  rw [sortedMembers_eq, Members.names, List.map_map]
  rfl

theorem nodup_names_sorted {ms : Members} (hn : ms.names.Nodup) :
    (sortByName (sortedMembers ms)).names.Nodup := by
  apply ((sortByName_perm _).map _).nodup_iff.2
  rwa [← names_sortedMembers] at hn

/-- Where no name occurs twice, nothing but the order of the members changes. -/
theorem sorted_obj {ms : Members} (hn : ms.names.Nodup) :
    sorted (.obj ms) = .obj (sortByName (sortedMembers ms)) := by
  rw [sorted, Members.ofList_of_nodup (nodup_names_sorted hn)]

theorem mem_sorted {ms : Members} {name : String} {v : Json} (h : (name, v) ∈ ms) :
    (name, sorted v) ∈ sortByName (sortedMembers ms) := by
  rw [(sortByName_perm _).mem_iff, sortedMembers_eq]
  exact List.mem_map.2 ⟨_, h, rfl⟩

theorem sortedMembers_sort (ms : Members) :
    sortByName (sortedMembers ms) = (sortByName ms).map fun m => (m.1, sorted m.2) := by
  rw [sortedMembers_eq, sortByName, sortByName, List.map_mergeSort]
  intro a _ b _; rfl

theorem compactMembers_sort (ms : Members) :
    sortMembers (compactMembers ms) = (sortByName ms).map fun m => (m.1, compact m.2) := by
  rw [compactMembers_eq, sortMembers, sortByName, List.map_mergeSort]
  intro a _ b _; rfl

/-! ### Literals -/

theorem Reads.literal {v : Json} {c : Char} {cs : List Char}
    (hc : c ≠ '"' ∧ c ≠ '[' ∧ c ≠ '{') (h : ∀ rest, scalar (c :: cs ++ rest) = .ok (v, rest)) :
    Reads v (c :: cs) := by
  intro fuel rest hf _
  obtain ⟨n, rfl⟩ : ∃ n, fuel = n + 1 := ⟨fuel - 1, by simp at hf; omega⟩
  rw [value_scalar (by simpa using hc), h]

theorem Reads.null : Reads .null "null".toList := Reads.literal (by decide) fun _ => rfl

theorem Reads.bool (b : Bool) : Reads (.bool b) (boolText b) := by
  cases b
  · exact Reads.literal (by decide) fun _ => rfl
  · exact Reads.literal (by decide) fun _ => rfl

theorem Reads.float {x : Number.Binary64} (h : x.Proper) : Reads (.float x) (floatText x) := by
  cases x with
  | finite negative m e => exact Reads.finite h
  | infinite negative =>
    cases negative
    · exact Reads.literal (by decide) fun _ => rfl
    · exact Reads.literal (by decide) fun _ => rfl
  | nan => exact Reads.literal (by decide) fun _ => rfl

/-! ### One line -/

theorem Writable.reads_compact {v : Json} (h : Writable v) : Reads (sorted v) (compact v) := by
  induction h with
  | null => exact Reads.null
  | bool b => exact Reads.bool b
  | int hn => exact Reads.int hn
  | float hx => exact Reads.float hx
  | str s => exact Reads.str false s
  | @arr vs _ ih =>
    rw [sorted, compact, sortedItems_eq, compactItems_eq]
    cases vs with
    | nil => exact Reads.arr_nil blank_nil
    | cons v vs =>
      have := Reads.arr blank_nil (ReadsItems.intercalate blank_nil blank_nil ih)
      simpa using this
  | @obj ms _ ih =>
    rw [sorted, compact, sortedMembers_sort, compactMembers_sort]
    have hr : ∀ m ∈ sortByName ms, Reads (sorted m.2) (compact m.2) := fun m hm =>
      ih m ((List.mergeSort_perm ms _).mem_iff.1 hm)
    cases hms : sortByName ms with
    | nil => exact Reads.obj_nil blank_nil
    | cons m rest =>
      rw [hms] at hr
      have := Reads.obj blank_nil
        (ReadsMembers.intercalate (·.1) false blank_nil blank_nil blank_nil hr)
      simpa [Function.comp_def, memberText] using this

/-- A text with blanks behind it. -/
theorem Reads.read {v : Json} {cs ws : List Char} (h : Reads v cs) (hw : Blank ws) :
    read (cs ++ ws) = .ok v := by
  have hd : document (cs ++ ws) = .ok v := by
    have hv := h (2 * (cs ++ ws).length + 2) ws (by simp; omega) (by
      simpa using ends_append hw (s := []) (fun c hc => by cases hc))
    have hs : skipSpace (cs ++ ws) = cs ++ ws := by
      obtain ⟨c, t, rfl, hc⟩ := h.starts
      exact skipSpace_append blank_nil (by simp [isSpace_of_not_badHead hc])
    have hend : skipSpace ws = [] := by simpa using skipSpace_append hw (s := []) (by simp)
    rw [document, hs, hv]
    simp only [bind, Except.bind, hend]
    rfl
  obtain ⟨c, t, rfl, hc⟩ := h.starts
  unfold Json.read
  split
  · rename_i heq
    cases heq
    exact absurd (.inr (.inr rfl)) hc
  · rw [hd]; rfl

theorem read_compact {v : Json} (h : Writable v) : read (compact v ++ ['\n']) = .ok (sorted v) :=
  h.reads_compact.read (by simp [Blank, isSpace])

end SymbolIndex.Json
