import Mathlib.Data.List.Nodup
import SymbolIndex.Partition.Basic
import SymbolIndex.Proofs.Text.Ascii

/-!
# Shard ids

The ids of a partition differ from each other, and they are made of letters and digits
(`isAlphanum_of_mem_allIds`), so each is a file name as it stands. `of_ofScheme` says which
partition the options ask for.
-/

namespace SymbolIndex.Partition

theorem ofDigitChars_hashedId (count bucket : Nat) :
    Nat.ofDigitChars 10 ((hashedId count bucket).toList.drop 1) 0 = bucket := by
  rw [hashedId, String.toList_ofList]
  simp only [List.cons_append, List.drop_succ_cons, List.drop_zero]
  rw [Nat.ofDigitChars_append, Nat.ofDigitChars_replicate_zero, Nat.mul_zero,
    Nat.ofDigitChars_ten_toDigits]

theorem hashedId_injective (count : Nat) : Function.Injective (hashedId count) := by
  intro a b h
  rw [← ofDigitChars_hashedId count a, h, ofDigitChars_hashedId]

theorem nodup_allIds (p : Partition) : p.allIds.Nodup := by
  cases p with
  | alpha => decide
  | hashed count _ => exact List.nodup_range.map (hashedId_injective count)

theorem letterId_mem (c : Char) : letterId c ∈ letters ++ [digitsId, symbolsId] := by
  rcases Nat.lt_or_ge c.toNat 128 with h | h
  · have hascii : ∀ c : Char, c.toNat < 128 → letterId c ∈ letters ++ [digitsId, symbolsId] :=
      Text.of_ascii (by decide +kernel)
    exact hascii c h
  · have hl : ¬ c.isLower = true := by
      rw [Text.isLower_iff_toNat]
      omega
    have hd : ¬ c.isDigit = true := by
      rw [Text.isDigit_iff_toNat]
      omega
    simp [letterId, hl, hd]

theorem idOf_mem_allIds (p : Partition) (key : List Char) : p.idOf key ∈ p.allIds := by
  cases p with
  | alpha => exact letterId_mem _
  | hashed count positive =>
    exact List.mem_map_of_mem (List.mem_range.2 (Nat.mod_lt _ positive))

theorem eq_of_orderOf_eq {p : Partition} {a b : String} (ha : a ∈ p.allIds)
    (h : p.orderOf a = p.orderOf b) : a = b := (List.idxOf_inj ha).1 h

theorem isAlphanum_hashedId {count bucket : Nat} {c : Char}
    (h : c ∈ (hashedId count bucket).toList) : c.isAlphanum = true := by
  rw [hashedId, String.toList_ofList, List.cons_append, List.mem_cons, List.mem_append] at h
  rcases h with rfl | h | h
  · decide
  · rw [List.eq_of_mem_replicate h]
    decide
  · have hdigit := Nat.isDigit_of_mem_toDigits (by decide) (by decide) h
    rw [Char.isAlphanum, hdigit, Bool.or_true]

theorem isAlphanum_of_mem_allIds {p : Partition} {id : String} (h : id ∈ p.allIds) {c : Char}
    (hc : c ∈ id.toList) : c.isAlphanum = true := by
  cases p with
  | alpha =>
    have hall : ∀ i ∈ allIds .alpha, i.toList.all Char.isAlphanum = true := by decide +kernel
    exact List.all_eq_true.1 (hall id h) c hc
  | hashed count _ =>
    obtain ⟨bucket, _, rfl⟩ := List.mem_map.1 h
    exact isAlphanum_hashedId hc

theorem ne_empty_of_mem_allIds {p : Partition} {id : String} (h : id ∈ p.allIds) : id ≠ "" := by
  cases p with
  | alpha =>
    have hall : "" ∉ allIds .alpha := by decide +kernel
    exact fun hid => hall (hid ▸ h)
  | hashed count _ =>
    obtain ⟨bucket, _, rfl⟩ := List.mem_map.1 h
    intro hid
    have := congrArg String.toList hid
    rw [hashedId, String.toList_ofList] at this
    cases this

/-! ### Options -/

theorem Scheme.ofJson?_name (a : Scheme) : Scheme.ofJson? (.str a.name) = some a := by
  cases a <;> rfl

theorem Scheme.eq_of_ofJson? {v : Json} {a : Scheme} (h : Scheme.ofJson? v = some a) :
    v = .str a.name := by
  cases v with
  | str given =>
    simp only [ofJson?, ofName?] at h
    split at h
    · cases h
      exact congrArg Json.str ‹_›
    · split at h
      · cases h
        exact congrArg Json.str ‹_›
      · cases h
  | _ => cases h

/-- Options that go together: the alphabetic scheme has no shard count, the hashed one a positive
count. -/
def OptionsFit (scheme : String) (shardCount : Option Int) : Prop :=
  scheme = "alpha" ∧ shardCount = none ∨
    scheme = "hashed" ∧ ∃ n, 0 < n ∧ shardCount = some n

/-- The options of a partition. -/
theorem optionsFit (p : Partition) : OptionsFit p.scheme.name (p.shardCount?.map Int.ofNat) := by
  cases p with
  | alpha => exact .inl ⟨rfl, rfl⟩
  | hashed count positive => exact .inr ⟨rfl, Int.ofNat count, Int.natCast_pos.2 positive, rfl⟩

/-- A partition is determined by its options. -/
theorem exists_of_optionsFit {scheme : String} {shardCount : Option Int}
    (h : OptionsFit scheme shardCount) :
    ∃ p : Partition, p.scheme.name = scheme ∧ p.shardCount?.map Int.ofNat = shardCount := by
  rcases h with ⟨rfl, rfl⟩ | ⟨rfl, n, hn, rfl⟩
  · exact ⟨.alpha, rfl, rfl⟩
  · obtain ⟨count, rfl⟩ := Int.eq_ofNat_of_zero_le (Int.le_of_lt hn)
    exact ⟨.hashed count (by omega), rfl, rfl⟩

/-- A partition is made again from its options. -/
theorem ofOptions_eq (p : Partition) :
    ofOptions (.str p.scheme.name) (p.shardCount?.map Int.ofNat) = .ok p := by
  rw [ofOptions, Scheme.ofJson?_name]
  cases p with
  | alpha => rfl
  | hashed count positive => exact dif_pos positive

theorem exists_ofOptions {scheme : String} {shardCount : Option Int}
    (h : OptionsFit scheme shardCount) : ∃ p, ofOptions (.str scheme) shardCount = .ok p ∧
      p.scheme.name = scheme ∧ p.shardCount?.map Int.ofNat = shardCount := by
  obtain ⟨p, rfl, rfl⟩ := exists_of_optionsFit h
  exact ⟨p, ofOptions_eq p, rfl, rfl⟩

/-- The shard count in force when one is given or not. -/
def countInForce : Scheme → (given : Option Int) → Option Int
  | .alpha, _ => none
  | .hashed, given => some (given.getD defaultCount)

/-- A partition has the scheme it was asked for, and the shard count in force. -/
theorem of_ofScheme {scheme : Scheme} {given : Option Int} {p : Partition}
    (h : ofScheme scheme given = .ok p) :
    p.scheme = scheme ∧ p.shardCount?.map Int.ofNat = countInForce scheme given := by
  unfold ofScheme at h
  split at h
  · cases h
    exact ⟨rfl, rfl⟩
  · cases h
  · cases h
    exact ⟨rfl, rfl⟩
  · split at h
    · rename_i n hn
      cases h
      have hcount : Int.ofNat n.toNat = n := by simp; omega
      exact ⟨rfl, congrArg some hcount⟩
    · cases h

/-- A shard count is positive if it is given, and not given for the alphabetic scheme. -/
theorem exists_ofScheme {scheme : Scheme} {given : Option Int}
    (halpha : scheme = .alpha → given = none) (hpositive : ∀ n ∈ given, 0 < n) :
    ∃ p, ofScheme scheme given = .ok p := by
  cases scheme with
  | alpha =>
    rw [halpha rfl]
    exact ⟨_, rfl⟩
  | hashed =>
    cases given with
    | none => exact ⟨_, rfl⟩
    | some n =>
      have hn : 0 < n.toNat := by
        have := hpositive n rfl
        omega
      exact ⟨_, dif_pos hn⟩

end SymbolIndex.Partition
