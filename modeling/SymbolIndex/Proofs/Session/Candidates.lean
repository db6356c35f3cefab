import Mathlib.Data.List.Basic
import SymbolIndex.Proofs.Match.Position
import SymbolIndex.Proofs.Partition.Targets
import SymbolIndex.Proofs.Session.Frame

/-!
# Candidates of a session

What a load ended with is what its source has (`Sound`), so a ready shard has the id it was asked
for. The candidates of some shards then depend on the shards as a set: to drop shards that hold no
match changes no list of matches (`filter_candidates_targets`).
-/

namespace SymbolIndex.Session

open Match (Candidate)

variable {s t : Session} {setup : Setup} {id : String} {ids : List String} {shard : Shard}

/-! ### Outcomes -/

/-- The session has the shards of its manifest, and every load that ended did so properly. -/
structure Sound (s : Session) : Prop where
  ids : s.shards.map (·.1) = s.manifest.shardIds.eraseDups
  outcome : ∀ {id o told}, s.stage id = .settled o told → OutcomeOk s id o

theorem stage_start (setup : Setup) (id : String) : (start setup).stage id = .unloaded := by
  unfold stage start
  rw [List.find?_map]
  split
  · rename_i h
    obtain ⟨i, _, hi⟩ := Option.map_eq_some_iff.1 h
    exact ((Prod.mk.inj hi).2).symm
  · rfl

theorem sound_start (setup : Setup) : Sound (start setup) where
  ids := by
    unfold start manifest
    rw [List.map_map]
    exact List.map_id _
  outcome h := by
    rw [stage_start] at h
    cases h

theorem Sound.step (hs : Sound s) (a : Action) : Sound (s.step a) where
  ids := by rw [ids_step, manifest, setup_step]; exact hs.ids
  outcome {id o told} h := by
    rw [OutcomeOk, setup_step]
    rcases outcome_step h with ⟨_, hbefore⟩ | hload | ⟨_, hrefused⟩
    · exact hs.outcome hbefore
    · exact .inl hload
    · exact .inr hrefused

theorem sound_run (setup : Setup) (actions : List Action) : Sound ((start setup).run actions) :=
  run_induction (sound_start setup) fun _ ht a _ => ht.step a

theorem load_eq_ok {source : Source} (h : load source id = .ok shard) :
    shard.id = id ∧ ∃ text, source.fetch id = .ok text ∧ Shard.read text = .ok shard := by
  unfold load at h
  split at h
  · cases h
  · rename_i text hf
    split at h
    · cases h
    · rename_i sh hr
      split at h
      · rename_i hid
        cases h
        exact ⟨hid, text, hf, hr⟩
      · cases h

theorem shard?_eq_some {stage : Stage} :
    stage.shard? = some shard ↔ ∃ told, stage = .settled (.ok shard) told := by
  unfold Stage.shard?
  split <;> simp_all

theorem Sound.load_of_ready (hs : Sound s) (h : (s.stage id).shard? = some shard) :
    load s.setup.source id = .ok shard := by
  obtain ⟨told, h⟩ := shard?_eq_some.1 h
  rcases hs.outcome h with ho | ho
  · exact ho.symm
  · cases ho

theorem Sound.id_of_ready (hs : Sound s) (h : (s.stage id).shard? = some shard) : shard.id = id :=
  (load_eq_ok (hs.load_of_ready h)).1

theorem Sound.isKnown_iff (hs : Sound s) : s.isKnown id = true ↔ id ∈ s.manifest.shardIds := by
  have hany : s.isKnown id = (s.shards.map (·.1)).any fun i => i == id := by
    rw [Session.isKnown, List.any_map]
    rfl
  rw [hany, hs.ids]
  simp

/-! ### Targets -/

theorem Sound.mem_of_mem_targets (hs : Sound s) {query : String} (h : id ∈ s.targets query) :
    id ∈ s.manifest.shardIds := by
  unfold targets at h
  split at h
  · exact h
  · exact hs.isKnown_iff.1 (List.mem_filter.1 h).2

/-- The manifest lists no shard twice, if a query looks at the shards as they are listed. -/
def ListsOnce (setup : Setup) : Prop :=
  setup.mode = .anywhere → setup.source.manifest.shardIds.Nodup

theorem ListsOnce.nodup_targets (h : ListsOnce s.setup) (query : String) :
    (s.targets query).Nodup := by
  unfold targets
  split
  · rename_i hmode
    exact h hmode
  · exact (Partition.nodup_idsFor _ _).filter _

theorem nodup_targets (hn : s.manifest.shardIds.Nodup) (query : String) :
    (s.targets query).Nodup :=
  ListsOnce.nodup_targets (fun _ => hn) query

/-- When keys have to begin with the query, every shard that loads holds keys of its own only. -/
def Placed (setup : Setup) : Prop :=
  setup.mode = .start → ∀ id ∈ setup.source.manifest.shardIds, ∀ shard,
    load setup.source id = .ok shard →
      ∀ e ∈ shard.entries, setup.source.manifest.partition.shardOf e.key = .ok id

/-- A shard that holds a match is a target, if a key that has to begin with the query is in the
shard of its own. -/
theorem Sound.mem_targets_of_placed (hs : Sound s) {query key : String}
    (hid : id ∈ s.manifest.shardIds) (hm : Match.Matches s.setup.mode query key)
    (hof : s.setup.mode = .start → s.manifest.partition.shardOf key = .ok id) :
    id ∈ s.targets query := by
  unfold targets
  split
  · exact hid
  · rename_i hmode
    rw [hmode] at hm
    have hof := hof hmode
    unfold Partition.shardOf at hof
    split at hof
    · cases hof
    · cases hof
      exact List.mem_filter.2 ⟨Partition.idOf_mem_idsFor _ hm, hs.isKnown_iff.2 hid⟩

/-- A ready shard that holds a match is a target. -/
theorem Sound.mem_targets (hs : Sound s) (hp : Placed s.setup) {query : String} {e : Entry}
    (hid : id ∈ s.manifest.shardIds) (hready : (s.stage id).shard? = some shard)
    (he : e ∈ shard.entries) (hm : Match.Matches s.setup.mode query e.key) :
    id ∈ s.targets query :=
  hs.mem_targets_of_placed hid hm fun hmode =>
    hp hmode id hid shard (hs.load_of_ready hready) e he

/-! ### Ready shards in order -/

theorem orderOf_injOn {a b : String} (ha : a ∈ s.manifest.shardIds) (hb : b ∈ s.manifest.shardIds)
    (h : s.orderOf a = s.orderOf b) : a = b := by
  simp only [orderOf] at h
  have hla := List.idxOf_lt_length_of_mem (List.mem_reverse.2 ha)
  have hlb := List.idxOf_lt_length_of_mem (List.mem_reverse.2 hb)
  rw [List.length_reverse] at hla hlb
  exact (List.idxOf_inj (List.mem_reverse.2 ha)).1 (by omega)

/-- The ready shards among some, in the order of the manifest. -/
def readyShards (s : Session) (ids : List String) : List Shard :=
  (ids.filterMap fun id => (s.stage id).shard?).mergeSort
    fun a b => s.orderOf a.id ≤ s.orderOf b.id

theorem candidates_eq (s : Session) (ids : List String) :
    s.candidates ids =
      (s.readyShards ids).flatMap fun shard => shardCandidates (s.orderOf shard.id) shard := by
  unfold candidates readyShards
  simp only
  rw [← List.map_mergeSort (r := fun a b : Shard => decide (s.orderOf a.id ≤ s.orderOf b.id))
    (fun _ _ _ _ => rfl), List.flatMap_map]

theorem mem_readyShards :
    shard ∈ s.readyShards ids ↔ ∃ id ∈ ids, (s.stage id).shard? = some shard := by
  rw [readyShards, List.mem_mergeSort, List.mem_filterMap]

/-- No shard is ready twice. -/
theorem Sound.nodup_readyShards (hs : Sound s) (hids : ids.Nodup) :
    ((s.readyShards ids).map (·.id)).Nodup := by
  have hready : (s.readyShards ids).Nodup := by
    rw [readyShards, (List.mergeSort_perm _ _).nodup_iff]
    apply hids.filterMap
    intro a b shard ha hb
    rw [← hs.id_of_ready ha, hs.id_of_ready hb]
  refine hready.map_on fun a ha b hb hab => ?_
  obtain ⟨i, _, hi⟩ := mem_readyShards.1 ha
  obtain ⟨j, _, hj⟩ := mem_readyShards.1 hb
  rw [hs.id_of_ready hi, hs.id_of_ready hj] at hab
  rw [hab, hj] at hi
  exact (Option.some.inj hi).symm

theorem pairwise_readyShards (s : Session) (ids : List String) :
    (s.readyShards ids).Pairwise fun a b => s.orderOf a.id ≤ s.orderOf b.id := by
  let le : Shard → Shard → Bool := fun a b => s.orderOf a.id ≤ s.orderOf b.id
  have htrans : ∀ a b c, le a b → le b c → le a c := by
    intro a b c hab hbc
    simp only [le, decide_eq_true_eq] at *
    omega
  have htotal : ∀ a b, le a b || le b a := by
    intro a b
    simp only [le, Bool.or_eq_true, decide_eq_true_eq]
    omega
  have h : (s.readyShards ids).Pairwise fun a b => le a b :=
    List.pairwise_mergeSort htrans htotal _
  exact h.imp of_decide_eq_true

/-- To keep the shards with certain ids is to ask for these only. -/
theorem Sound.filter_readyShards (hs : Sound s) {small : List String} (hids : ids.Nodup)
    (hsmall : small.Nodup) (hsub : small ⊆ ids) (hknown : ids ⊆ s.manifest.shardIds) :
    (s.readyShards ids).filter (fun shard => shard.id ∈ small) = s.readyShards small := by
  refine List.Perm.eq_of_pairwise ?_ ((pairwise_readyShards s ids).filter _)
    (pairwise_readyShards s small) ?_
  · intro a b ha hb hab hba
    obtain ⟨i, hi, hai⟩ := mem_readyShards.1 (List.mem_filter.1 ha).1
    obtain ⟨j, hj, hbj⟩ := mem_readyShards.1 hb
    have hij : i = j := by
      apply orderOf_injOn (hknown hi) (hknown (hsub hj))
      rw [hs.id_of_ready hai, hs.id_of_ready hbj] at hab hba
      omega
    rw [hij, hbj] at hai
    exact (Option.some.inj hai).symm
  · have hperm : (ids.filter fun id => id ∈ small).Perm small := by
      apply (List.perm_ext_iff_of_nodup (hids.filter _) hsmall).2
      intro id
      rw [List.mem_filter, decide_eq_true_eq]
      exact and_iff_right_of_imp fun h => hsub h
    have hready : ∀ f : String → Option Shard, (∀ id sh, f id = some sh → sh.id = id) →
        (ids.filterMap f).filter (fun shard => shard.id ∈ small) =
          (ids.filter fun id => id ∈ small).filterMap f := by
      intro f hf
      rw [List.filter_filterMap, List.filterMap_filter]
      apply List.filterMap_congr
      intro id _
      cases hfi : f id with
      | none => simp
      | some sh => simp [hf id sh hfi, Option.filter]
    apply ((List.mergeSort_perm _ _).filter _).trans
    rw [hready _ fun id sh h => hs.id_of_ready h]
    exact (hperm.filterMap _).trans (List.mergeSort_perm _ _).symm

/-! ### Candidates -/

theorem mem_shardCandidates {order : Nat} {c : Candidate} :
    c ∈ shardCandidates order shard ↔
      ∃ (i : Nat) (e : Entry), shard.entries[i]? = some e ∧ c = ⟨e, shard.id, (order, i)⟩ := by
  rw [shardCandidates, List.mem_mapIdx]
  constructor
  · rintro ⟨i, hi, rfl⟩
    exact ⟨i, _, List.getElem?_eq_getElem hi, rfl⟩
  · rintro ⟨i, e, h, rfl⟩
    obtain ⟨hi, rfl⟩ := List.getElem?_eq_some_iff.1 h
    exact ⟨i, hi, rfl⟩

theorem map_key_shardCandidates (order : Nat) (shard : Shard) :
    (shardCandidates order shard).map (·.entry.key) = shard.keys := by
  apply List.ext_getElem?
  intro i
  rw [shardCandidates, Shard.keys, List.getElem?_map, List.getElem?_map, List.getElem?_mapIdx,
    Option.map_map]
  rfl

theorem shardId_of_mem_shardCandidates {order : Nat} {c : Candidate}
    (hc : c ∈ shardCandidates order shard) : c.shardId = shard.id := by
  obtain ⟨i, e, _, rfl⟩ := mem_shardCandidates.1 hc
  rfl

/-- The candidates are the entries of the ready shards. -/
theorem Sound.exists_candidate_iff (hs : Sound s) {e : Entry} :
    (∃ c ∈ s.candidates ids, c.shardId = id ∧ c.entry = e) ↔
      id ∈ ids ∧ ∃ shard, (s.stage id).shard? = some shard ∧ e ∈ shard.entries := by
  rw [candidates_eq]
  constructor
  · rintro ⟨c, hc, rfl, rfl⟩
    obtain ⟨shard, hshard, hc⟩ := List.mem_flatMap.1 hc
    obtain ⟨id, hid, hready⟩ := mem_readyShards.1 hshard
    obtain ⟨i, e, he, rfl⟩ := mem_shardCandidates.1 hc
    obtain rfl := hs.id_of_ready hready
    exact ⟨hid, shard, hready, List.mem_of_getElem? he⟩
  · rintro ⟨hid, shard, hready, he⟩
    obtain ⟨i, hi⟩ := List.getElem?_of_mem he
    exact ⟨_, List.mem_flatMap.2 ⟨shard, mem_readyShards.2 ⟨id, hid, hready⟩,
      mem_shardCandidates.2 ⟨i, e, hi, rfl⟩⟩, hs.id_of_ready hready, rfl⟩

/-- Shards besides the targets of a query add nothing to its matches. -/
theorem Sound.filter_candidates_targets (hs : Sound s) (hp : Placed s.setup)
    (hn : s.manifest.shardIds.Nodup) {query : String} (hq : query ≠ "") (hids : ids.Nodup)
    (hknown : ids ⊆ s.manifest.shardIds) (hsub : s.targets query ⊆ ids) :
    Match.filter s.setup.mode query (s.candidates ids) =
      Match.filter s.setup.mode query (s.candidates (s.targets query)) := by
  rw [candidates_eq, candidates_eq,
    ← hs.filter_readyShards hids (nodup_targets hn query) hsub hknown]
  unfold Match.filter
  rw [List.filter_flatMap, List.filter_flatMap]
  generalize hl : s.readyShards ids = shards
  have hshards : ∀ shard ∈ shards, ∃ id ∈ ids, (s.stage id).shard? = some shard := by
    intro shard h
    rw [← hl] at h
    exact mem_readyShards.1 h
  clear hl
  induction shards with
  | nil => rfl
  | cons shard rest ih =>
    have ih := ih fun sh h => hshards sh (List.mem_cons_of_mem _ h)
    rw [List.flatMap_cons, List.filter_cons, ih]
    split
    · rw [List.flatMap_cons]
    · rename_i hout
      obtain ⟨id, hid, hready⟩ := hshards shard List.mem_cons_self
      rw [List.append_left_eq_self, List.filter_eq_nil_iff]
      intro c hc hm
      obtain ⟨i, e, he, rfl⟩ := mem_shardCandidates.1 hc
      rw [Match.isSome_position_iff hq] at hm
      have := hs.mem_targets hp (hknown hid) hready (List.mem_of_getElem? he) hm
      rw [hs.id_of_ready hready] at hout
      exact hout (by simpa using this)

/-! ### What stays once loads are settled -/

theorem exists_settled_of_resolved {stage : Stage} (h : stage.isResolved = true) :
    ∃ o, stage = .settled o .everyone := by
  unfold Stage.isResolved at h
  split at h
  · exact ⟨_, rfl⟩
  · cases h

/-- All of these loads are resolved. -/
def Resolved (s : Session) (ids : List String) : Prop := ∀ id ∈ ids, (s.stage id).isResolved = true

theorem Later.resolved_ids (h : Later s t) (hr : Resolved s ids) : Resolved t ids :=
  fun id hid => h.resolved (hr id hid)

theorem Later.outcome_eq (h : Later s t) (hr : (s.stage id).isResolved = true) :
    (t.stage id).shard? = (s.stage id).shard? ∧ (t.stage id).failure? = (s.stage id).failure? := by
  obtain ⟨o, ho⟩ := exists_settled_of_resolved hr
  obtain ⟨told, ht⟩ := h.settled ho
  rw [ho, ht]
  cases o <;> exact ⟨rfl, rfl⟩

theorem Later.orderOf (h : Later s t) (id : String) : t.orderOf id = s.orderOf id := by
  unfold Session.orderOf manifest
  rw [h.setup]

theorem Later.candidates (h : Later s t) (hr : Resolved s ids) :
    t.candidates ids = s.candidates ids := by
  unfold Session.candidates
  have ho : t.orderOf = s.orderOf := funext h.orderOf
  rw [ho, List.filterMap_congr fun id hid => (h.outcome_eq (hr id hid)).1]

theorem Later.warnings (h : Later s t) (hr : Resolved s ids) : t.warnings ids = s.warnings ids := by
  unfold Session.warnings
  apply List.filterMap_congr
  intro id hid
  rw [(h.outcome_eq (hr id hid)).2]

end SymbolIndex.Session
