import Mathlib.Data.List.Nodup
import Mathlib.Data.List.Perm.Basic
import SymbolIndex.Build
import SymbolIndex.Proofs.Distinct
import SymbolIndex.Proofs.Partition.Ids

/-!
# Dividing entries among shards

`mem_divide` says what the shards are. Each entry goes to one of them, so together they hold the
entries that were divided (`flatMap_divide_perm`). Where no two keys have one sort text, the shards
do not depend on the order of the entries (`divide_of_perm`).
-/

namespace SymbolIndex.Build

/-- Sorting entries by the ids of their shards, one id after the other, only reorders them. -/
theorem flatMap_filter_perm {α β : Type} [BEq β] [LawfulBEq β] (f : α → β) {ids : List β}
    (hn : ids.Nodup) {l : List α} (h : ∀ a ∈ l, f a ∈ ids) :
    (ids.flatMap fun id => l.filter fun a => f a == id).Perm l := by
  induction ids generalizing l with
  | nil =>
    cases l with
    | nil => exact .refl _
    | cons a l => exact absurd (h a (by simp)) (by simp)
  | cons id ids ih =>
    obtain ⟨hid, hn⟩ := List.nodup_cons.1 hn
    have hrest : (ids.flatMap fun j => l.filter fun a => f a == j) =
        ids.flatMap fun j => (l.filter fun a => !(f a == id)).filter fun a => f a == j := by
      apply List.flatMap_congr
      intro j hj
      rw [List.filter_filter]
      apply List.filter_congr
      intro a _
      by_cases haj : f a = j
      · have : j ≠ id := fun h => hid (h ▸ hj)
        simp [haj, this]
      · simp [haj]
    have hin : ∀ a ∈ l.filter fun a => !(f a == id), f a ∈ ids := by
      intro a ha
      simp only [List.mem_filter, Bool.not_eq_true', beq_eq_false_iff_ne] at ha
      exact (List.mem_cons.1 (h a ha.1)).resolve_left ha.2
    rw [List.flatMap_cons, hrest]
    exact ((ih hn hin).append_left _).trans (List.filter_append_perm _ _)

/-! ### Shards -/

variable {p : Partition} {es : List Entry}

/-- The ids of the shards, in canonical order. -/
def orderedIds (p : Partition) (es : List Entry) : List String :=
  (((es.map fun e => p.idOf e.key.toList).eraseDups.map fun id => (p.orderOf id, id)).mergeSort
    fun a b => a.1 ≤ b.1).map (·.2)

/-- The shard with an id. -/
def shardOf (p : Partition) (es : List Entry) (id : String) : Shard :=
  ⟨id, (es.filter fun e => p.idOf e.key.toList == id).mergeSort keyLe⟩

theorem divide_eq (p : Partition) (es : List Entry) :
    divide p es = (orderedIds p es).map (shardOf p es) := by
  rw [divide, orderedIds, List.map_map]
  rfl

theorem orderedIds_perm (p : Partition) (es : List Entry) :
    (orderedIds p es).Perm (es.map fun e => p.idOf e.key.toList).eraseDups := by
  have := (List.mergeSort_perm ((es.map fun e => p.idOf e.key.toList).eraseDups.map
    fun id => (p.orderOf id, id)) fun a b => a.1 ≤ b.1).map (·.2)
  rwa [List.map_map, show ((·.2) ∘ fun id => (p.orderOf id, id)) = (id : String → String) from rfl,
    List.map_id] at this

theorem mem_orderedIds {id : String} :
    id ∈ orderedIds p es ↔ ∃ e ∈ es, p.idOf e.key.toList = id := by
  rw [(orderedIds_perm p es).mem_iff, List.mem_eraseDups, List.mem_map]

theorem nodup_orderedIds (p : Partition) (es : List Entry) : (orderedIds p es).Nodup :=
  (orderedIds_perm p es).nodup_iff.2 (nodup_eraseDups _)

theorem mem_divide {s : Shard} :
    s ∈ divide p es ↔ (∃ e ∈ es, p.idOf e.key.toList = s.id) ∧ s = shardOf p es s.id := by
  rw [divide_eq, List.mem_map]
  constructor
  · rintro ⟨id, hid, rfl⟩
    exact ⟨mem_orderedIds.1 hid, rfl⟩
  · rintro ⟨hid, hs⟩
    exact ⟨s.id, mem_orderedIds.2 hid, hs.symm⟩

theorem map_id_divide (p : Partition) (es : List Entry) :
    (divide p es).map (·.id) = orderedIds p es := by
  rw [divide_eq, List.map_map, show ((·.id) ∘ shardOf p es) = (id : String → String) from rfl,
    List.map_id]

theorem mem_entries_shardOf {id : String} {e : Entry} :
    e ∈ (shardOf p es id).entries ↔ e ∈ es ∧ p.idOf e.key.toList = id := by
  rw [shardOf, (List.mergeSort_perm _ _).mem_iff, List.mem_filter, beq_iff_eq]

theorem flatMap_divide_perm (p : Partition) (es : List Entry) :
    ((divide p es).flatMap (·.entries)).Perm es := by
  have hp : ((divide p es).flatMap (·.entries)).Perm
      ((orderedIds p es).flatMap fun id => es.filter fun e => p.idOf e.key.toList == id) := by
    rw [divide_eq, List.flatMap_map]
    exact .flatMap_left (orderedIds p es) fun id _ => List.mergeSort_perm _ _
  exact hp.trans (flatMap_filter_perm _ (nodup_orderedIds p es)
    fun e he => mem_orderedIds.2 ⟨e, he, rfl⟩)

/-! ### The order of the entries -/

theorem pairwise_keyLe (es : List Entry) : (es.mergeSort keyLe).Pairwise fun a b => keyLe a b := by
  apply List.pairwise_mergeSort
  · intro a b c hab hbc
    rw [keyLe, decide_eq_true_eq] at *
    exact String.le_trans hab hbc
  · intro a b
    rw [keyLe, keyLe, Bool.or_eq_true, decide_eq_true_eq, decide_eq_true_eq]
    exact String.le_total _ _

/-- The ids stand in canonical order. -/
theorem pairwise_orderOf_orderedIds (p : Partition) (es : List Entry) :
    (orderedIds p es).Pairwise fun a b => p.orderOf a < p.orderOf b := by
  have hle : (orderedIds p es).Pairwise fun a b => p.orderOf a ≤ p.orderOf b := by
    rw [orderedIds, List.pairwise_map]
    refine (List.pairwise_mergeSort (by simp; omega) (by simp; omega) _).imp_of_mem
      fun {a b} ha hb hab => ?_
    obtain ⟨i, -, rfl⟩ := List.mem_map.1 (List.mem_mergeSort.1 ha)
    obtain ⟨j, -, rfl⟩ := List.mem_map.1 (List.mem_mergeSort.1 hb)
    simpa using hab
  refine (hle.and (nodup_orderedIds p es)).imp_of_mem fun {a b} ha _ ⟨hab, hne⟩ => ?_
  obtain ⟨e, -, rfl⟩ := mem_orderedIds.1 ha
  have hknown := Partition.idOf_mem_allIds p e.key.toList
  exact Nat.lt_of_le_of_ne hab fun heq => hne (Partition.eq_of_orderOf_eq hknown heq)

theorem orderedIds_of_perm {es' : List Entry} (h : es.Perm es') :
    orderedIds p es = orderedIds p es' := by
  refine List.Perm.eq_of_pairwise (fun _ _ _ _ hab hba => absurd hab (Nat.lt_asymm hba))
    (pairwise_orderOf_orderedIds p es) (pairwise_orderOf_orderedIds p es') ?_
  rw [List.perm_ext_iff_of_nodup (nodup_orderedIds p es) (nodup_orderedIds p es')]
  intro id
  simp only [mem_orderedIds, h.mem_iff]

/-- Where the keys differ and are their own sort texts, the shards do not depend on the order of the
entries. -/
theorem divide_of_perm {es' : List Entry} (h : es.Perm es')
    (hsort : ∀ e ∈ es, Key.sortText e.key = e.key) (hkeys : (es.map (·.key)).Nodup) :
    divide p es = divide p es' := by
  rw [divide_eq, divide_eq, orderedIds_of_perm h]
  refine List.map_congr_left fun id _ => ?_
  rw [shardOf, shardOf, Shard.mk.injEq]
  refine ⟨rfl, List.Perm.eq_of_pairwise ?_ (pairwise_keyLe _) (pairwise_keyLe _) ?_⟩
  · intro a b ha hb hab hba
    have ha := (List.mem_filter.1 (List.mem_mergeSort.1 ha)).1
    have hb := h.mem_iff.2 (List.mem_filter.1 (List.mem_mergeSort.1 hb)).1
    rw [keyLe, decide_eq_true_eq, hsort a ha, hsort b hb] at *
    exact List.inj_on_of_nodup_map hkeys ha hb (String.le_antisymm hab hba)
  · exact (List.mergeSort_perm _ _).trans ((h.filter _).trans (List.mergeSort_perm _ _).symm)

end SymbolIndex.Build
