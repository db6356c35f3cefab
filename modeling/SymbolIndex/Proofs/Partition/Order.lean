import Mathlib.Data.List.Sublists
import Mathlib.Data.Nat.Digits.Defs
import SymbolIndex.Proofs.Partition.Targets

/-!
# The canonical order of shard ids

The ids of a hashed partition are numbers of one width, so their order as texts is that of the
buckets (`pairwise_lt_hashedIds`). Every id stands at the place that `orderOf` gives it, and the
shards for a beginning of a key are listed in this order and hold the key's own
(`idsFor_in_order`).
-/

namespace SymbolIndex.Partition

/-! ### Numbers of a fixed width -/

/-- The last `width` decimal digits of a number. -/
def padded : (width : Nat) → Nat → List Char
  | 0, _ => []
  | width + 1, n => padded width (n / 10) ++ [Nat.digitChar (n % 10)]

theorem length_padded (width n : Nat) : (padded width n).length = width := by
  induction width generalizing n with
  | zero => rfl
  | succ width ih => rw [padded, List.length_append, ih, List.length_singleton]

theorem padded_zero (width : Nat) : padded width 0 = List.replicate width '0' := by
  induction width with
  | zero => rfl
  | succ width ih =>
    rw [padded, Nat.zero_div, ih, List.replicate_succ']
    rfl

/-- Zeros in front of the digits fill a number up to its width. -/
theorem replicate_append_toDigits {width n : Nat} (hw : 0 < width) (h : n < 10 ^ width) :
    List.replicate (width - (Nat.toDigits 10 n).length) '0' ++ Nat.toDigits 10 n = padded width n := by
  induction width generalizing n with
  | zero => exact absurd hw (Nat.lt_irrefl 0)
  | succ width ih =>
    rw [padded]
    rcases Nat.lt_or_ge n 10 with hn | hn
    · rw [Nat.toDigits_of_lt_base hn, Nat.div_eq_of_lt hn, Nat.mod_eq_of_lt hn, padded_zero]
      rfl
    · have hwidth : 0 < width := by
        rcases Nat.eq_zero_or_pos width with rfl | hpos
        · omega
        · exact hpos
      have hdiv : n / 10 < 10 ^ width := by
        rw [Nat.div_lt_iff_lt_mul (by decide)]
        rwa [Nat.pow_succ] at h
      rw [Nat.toDigits_of_base_le (by decide) hn, ← ih hwidth hdiv, List.length_append,
        List.length_singleton, Nat.add_sub_add_right, List.append_assoc]

theorem digitChar_lt_digitChar : ∀ b < 10, ∀ a < b, Nat.digitChar a < Nat.digitChar b := by decide

/-- Texts of one length compare by their first parts. -/
theorem append_lt_append {a b : List Char} (hlen : a.length = b.length) (h : a < b)
    (c d : List Char) : a ++ c < b ++ d := by
  induction a generalizing b with
  | nil =>
    rw [List.length_eq_zero_iff.1 hlen.symm] at h
    exact absurd h (List.lt_irrefl _)
  | cons x a ih =>
    cases b with
    | nil => exact absurd hlen (by simp)
    | cons y b =>
      rw [List.cons_append, List.cons_append]
      rw [List.cons_lt_cons_iff] at h ⊢
      exact h.imp_right fun ⟨hxy, hab⟩ => ⟨hxy, ih (Nat.succ.inj hlen) hab⟩

theorem padded_lt_padded {width a b : Nat} (hb : b < 10 ^ width) (h : a < b) :
    padded width a < padded width b := by
  induction width generalizing a b with
  | zero =>
    rw [Nat.pow_zero] at hb
    omega
  | succ width ih =>
    rw [padded, padded]
    have hdiv : b / 10 < 10 ^ width := by
      rw [Nat.div_lt_iff_lt_mul (by decide)]
      rwa [Nat.pow_succ] at hb
    rcases Nat.lt_or_ge (a / 10) (b / 10) with hlt | hge
    · exact append_lt_append (by rw [length_padded, length_padded]) (ih hdiv hlt) _ _
    · -- The front parts are equal, so the last digits differ.
      have heq : a / 10 = b / 10 := by omega
      rw [heq]
      refine List.append_left_lt ?_
      rw [List.cons_lt_cons_iff]
      exact .inl (digitChar_lt_digitChar _ (by omega) _ (by omega))

/-! ### Ids of a hashed partition -/

variable {count bucket : Nat}

/-- How many digits an id has. -/
def hashedWidth (count : Nat) : Nat := max 2 (Nat.toDigits 10 (count - 1)).length

theorem lt_pow_hashedWidth (h : bucket < count) : bucket < 10 ^ hashedWidth count := by
  have hlast : (Nat.toDigits 10 (count - 1)).length ≤ hashedWidth count := Nat.le_max_right _ _
  rw [Nat.length_toDigits_le_iff (by decide)
    (Nat.lt_of_lt_of_le Nat.length_toDigits_pos hlast)] at hlast
  omega

theorem toList_hashedId (h : bucket < count) :
    (hashedId count bucket).toList = 'h' :: padded (hashedWidth count) bucket := by
  have hpos : 0 < hashedWidth count := Nat.lt_of_lt_of_le (by decide) (Nat.le_max_left 2 _)
  rw [hashedId, String.toList_ofList, List.cons_append]
  exact congrArg ('h' :: ·) (replicate_append_toDigits hpos (lt_pow_hashedWidth h))

example : hashedId 101 7 = "h007" ∧ hashedId 100 7 = "h07" := by decide +kernel

theorem hashedId_lt_hashedId {a b : Nat} (hb : b < count) (h : a < b) :
    hashedId count a < hashedId count b := by
  rw [String.lt_iff, toList_hashedId (Nat.lt_trans h hb), toList_hashedId hb,
    List.cons_lt_cons_iff]
  exact .inr ⟨rfl, padded_lt_padded (lt_pow_hashedWidth hb) h⟩

/-- The ids of a hashed partition are listed in the order of texts. -/
theorem pairwise_lt_hashedIds (count : Nat) :
    ((List.range count).map (hashedId count)).Pairwise (· < ·) := by
  rw [List.pairwise_map]
  refine List.pairwise_lt_range.imp_of_mem fun _ hb h => ?_
  exact hashedId_lt_hashedId (List.mem_range.1 hb) h

/-! ### Places -/

theorem orderOf_getElem (p : Partition) {i : Nat} (h : i < p.allIds.length) :
    p.orderOf p.allIds[i] = i := (nodup_allIds p).idxOf_getElem i h

theorem pairwise_orderOf_allIds (p : Partition) :
    p.allIds.Pairwise fun a b => p.orderOf a < p.orderOf b := by
  rw [List.pairwise_iff_getElem]
  intro i j hi hj hij
  rwa [orderOf_getElem p hi, orderOf_getElem p hj]

/-- Either one id or all of them. -/
theorem idsFor_sublist_allIds (p : Partition) (start : String) :
    (p.idsFor start).Sublist p.allIds := by
  unfold idsFor
  split
  · exact List.singleton_sublist.2 (idOf_mem_allIds p _)
  · exact List.Sublist.refl _

theorem shardOf_of_ne_empty (p : Partition) {key : String} (h : key ≠ "") :
    p.shardOf key = .ok (p.idOf key.toList) := if_neg h

/-- A key that is not empty has a shard, which is among those for each beginning of the key. These
are listed in the order of all ids, in which no id occurs twice and each stands at its place; for a
hashed partition that is the order of texts, and all ids have the same number of digits. -/
theorem idsFor_in_order (p : Partition) :
    (∀ key start : String, key ≠ "" → start.toList <+: key.toList →
      ∃ id, p.shardOf key = .ok id ∧ id ∈ p.idsFor start) ∧
    (∀ start, (p.idsFor start).Sublist p.allIds) ∧
    p.allIds.Nodup ∧
    (p.allIds.Pairwise fun a b => p.orderOf a < p.orderOf b) ∧
    (∀ (i : Nat) (h : i < p.allIds.length), p.orderOf p.allIds[i] = i) ∧
    (p.scheme = .hashed → p.allIds.Pairwise (· < ·) ∧
      ∃ width, ∀ id ∈ p.allIds, id.toList.length = 1 + width) := by
  refine ⟨fun key start hkey hstart => ?_, idsFor_sublist_allIds p, nodup_allIds p,
    pairwise_orderOf_allIds p, fun i h => orderOf_getElem p h, fun hscheme => ?_⟩
  · exact ⟨_, shardOf_of_ne_empty p hkey, idOf_mem_idsFor p hstart⟩
  · cases p with
    | alpha => cases hscheme
    | hashed count positive =>
      refine ⟨pairwise_lt_hashedIds count, hashedWidth count, fun id hid => ?_⟩
      obtain ⟨bucket, hbucket, rfl⟩ := List.mem_map.1 hid
      rw [toList_hashedId (List.mem_range.1 hbucket), List.length_cons, length_padded,
        Nat.add_comm]

/-- With 101 shards the width of the ids is three; the beginning decides the shard. -/
theorem idsFor_in_order_of_many : ∃ id,
    (Partition.hashed 101 (by decide)).shardOf "~err" = .ok id ∧
      id ∈ (Partition.hashed 101 (by decide)).idsFor "~e" ∧
      (Partition.hashed 101 (by decide)).allIds.Pairwise (· < ·) := by
  obtain ⟨hcovers, _, _, _, _, htexts⟩ := idsFor_in_order (.hashed 101 (by decide))
  obtain ⟨id, hid, hmem⟩ := hcovers "~err" "~e" (by decide) (by decide)
  exact ⟨id, hid, hmem, (htexts rfl).1⟩

end SymbolIndex.Partition
