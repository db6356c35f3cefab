import Mathlib.Data.List.Infix
import SymbolIndex.Proofs.Partition.Ids

/-!
# Shards of a beginning

The leading characters of a key decide its shard, so the shards for a beginning of the key hold
its own (`idOf_mem_idsFor`). No id is listed twice.
-/

namespace SymbolIndex.Partition

/-- Keys that begin alike have one shard. -/
theorem idOf_eq_of_take {p : Partition} {a b : List Char} (h : a.take p.width = b.take p.width) :
    p.idOf a = p.idOf b := by
  cases p with
  | alpha =>
    cases a <;> cases b <;> simp_all [width, idOf]
  | hashed count _ =>
    simp only [width] at h
    simp only [idOf, bucket, h]

/-- The shard of a key is among those for any beginning of it. -/
theorem idOf_mem_idsFor (p : Partition) {start : String} {key : List Char}
    (h : start.toList <+: key) : p.idOf key ∈ p.idsFor start := by
  unfold idsFor
  split
  · rename_i hw
    obtain ⟨rest, rfl⟩ := h
    rw [List.mem_singleton]
    exact idOf_eq_of_take (List.take_append_of_le_length hw)
  · exact idOf_mem_allIds p key

theorem nodup_idsFor (p : Partition) (start : String) : (p.idsFor start).Nodup := by
  unfold idsFor
  split
  · exact List.nodup_singleton _
  · exact nodup_allIds p

end SymbolIndex.Partition
