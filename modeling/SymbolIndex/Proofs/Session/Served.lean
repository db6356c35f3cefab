import Mathlib.Data.List.Nodup
import SymbolIndex.Proofs.Match.Ranking
import SymbolIndex.Proofs.Session.Answers
import SymbolIndex.Proofs.Store.ReadBack

/-!
# Sessions over a build

A session that serves a build and stays open loads each shard as it was built. So its candidates
are the merged entries of the build, each once (`mem_candidates`, `nodup_keys_candidates`), and
nothing fails.
-/

namespace SymbolIndex.Session

open Match (Candidate)
open Store (Serves)

variable {s : Session} {p : Partition} {records : List Record} {source : Source}
  {ids : List String} {id : String} {shard : Shard}

/-! ### Sessions that stay open -/

/-- The session was not closed, so every load that ended did so as its source has it. -/
structure StaysOpen (s : Session) : Prop where
  closed : s.closed = false
  outcome : ∀ {id o told}, s.stage id = .settled o told → o = load s.setup.source id

theorem staysOpen_start (setup : Setup) : StaysOpen (start setup) where
  closed := rfl
  outcome h := by
    rw [stage_start] at h
    cases h

theorem StaysOpen.step (h : StaysOpen s) {a : Action} (ha : a ≠ .close) : StaysOpen (s.step a) where
  closed := by rw [closed_step_of_ne ha, h.closed]
  outcome {id o told} hst := by
    rw [setup_step]
    rcases outcome_step hst with ⟨_, hbefore⟩ | hload | ⟨hclosed, _⟩
    · exact h.outcome hbefore
    · exact hload
    · rw [h.closed] at hclosed
      cases hclosed

theorem StaysOpen.run (h : StaysOpen s) {actions : List Action} (ha : ∀ a ∈ actions, a ≠ .close) :
    StaysOpen (s.run actions) :=
  run_induction h fun _ ht a hmem => ht.step (ha a hmem)

/-! ### Serving a build -/

/-- Why a shard cannot be loaded: its document cannot be fetched, cannot be read, or holds another
shard. -/
inductive Breaks (source : Source) (id : String) : String → Prop where
  | unfetched {e : FetchError} (h : source.fetch id = .error e) : Breaks source id e.reason
  | unreadable {text : String} {e : Shard.ReadError} (hf : source.fetch id = .ok text)
    (h : Shard.read text = .error e) : Breaks source id e.message
  | misnamed {text : String} {shard : Shard} (hf : source.fetch id = .ok text)
    (h : Shard.read text = .ok shard) (hne : shard.id ≠ id) :
    Breaks source id ("document holds shard " ++ Text.quoted shard.id)

theorem load_eq_error {reason : String} :
    load source id = .error reason ↔ Breaks source id reason := by
  constructor
  · intro h
    unfold load at h
    split at h
    · rename_i hf
      cases h
      exact .unfetched hf
    · rename_i hf
      split at h
      · rename_i hr
        cases h
        exact .unreadable hf hr
      · rename_i hr
        split at h
        · cases h
        · rename_i hne
          cases h
          exact .misnamed hf hr hne
  · rintro (hf | ⟨hf, hr⟩ | ⟨hf, hr, hne⟩)
    · rw [load, hf]
    · rw [load, hf]
      simp only [hr]
    · rw [load, hf]
      simp only [hr, if_neg hne]

/-- A source offers a build, but for some shards that cannot be loaded. -/
structure ServesBut (failing : List String) (source : Source) (b : Build) : Prop where
  manifest : source.manifest = b.manifest
  fetch : ∀ shard ∈ b.shards, shard.id ∉ failing → source.fetch shard.id = .ok shard.render
  breaks : ∀ id ∈ failing, ∃ reason, Breaks source id reason

theorem servesBut_nil {b : Build} (h : Serves source b) : ServesBut [] source b where
  manifest := h.manifest
  fetch shard hshard _ := h.fetch shard hshard
  breaks := nofun

namespace ServesBut

variable {failing : List String} (h : ServesBut failing source (Build.lenient p records))
include h

theorem load_eq (hs : shard ∈ (Build.lenient p records).shards) (hok : shard.id ∉ failing) :
    load source shard.id = .ok shard := by
  rw [load, h.fetch shard hs hok]
  simp only [Shard.read_render (Build.wellFormed_of_mem hs), if_pos]

theorem shardIds : source.manifest.shardIds = (Build.lenient p records).shards.map (·.id) := by
  rw [h.manifest, Build.shardIds_lenient]

theorem nodup : source.manifest.shardIds.Nodup := by
  rw [h.shardIds]
  exact Build.nodup_ids_lenient p records

theorem exists_shard (hid : id ∈ source.manifest.shardIds) (hok : id ∉ failing) :
    ∃ shard ∈ (Build.lenient p records).shards, shard.id = id ∧ load source id = .ok shard := by
  rw [h.shardIds] at hid
  obtain ⟨shard, hshard, rfl⟩ := List.mem_map.1 hid
  exact ⟨shard, hshard, rfl, h.load_eq hshard hok⟩

end ServesBut

/-- The shards of a build hold keys of their own only. -/
theorem ServesBut.placed {failing : List String} {setup : Setup}
    (h : ServesBut failing setup.source (Build.lenient p records)) : Placed setup := by
  intro _ id hid shard hload e he
  have hok : id ∉ failing := by
    intro hfail
    obtain ⟨reason, hbreaks⟩ := h.breaks id hfail
    rw [load_eq_error.2 hbreaks] at hload
    cases hload
  obtain ⟨built, hbuilt, rfl, hbuiltLoad⟩ := h.exists_shard hid hok
  rw [hbuiltLoad] at hload
  obtain rfl := Except.ok.inj hload
  obtain ⟨hm, hof⟩ := (Build.mem_entries_of_shard hbuilt).1 he
  rw [h.manifest, Build.partition_lenient, Partition.shardOf, if_neg hm.key_ne, hof]

/-! ### Loaded as built -/

/-- These shards are loaded as they were built. -/
def AsBuilt (p : Partition) (records : List Record) (s : Session) (ids : List String) : Prop :=
  ∀ id ∈ ids, ∃ shard ∈ (Build.lenient p records).shards, shard.id = id ∧
    s.stage id = .settled (.ok shard) .everyone

/-- Shards whose loads ended as the source has them are as they were built. -/
theorem ServesBut.asBuilt {failing : List String}
    (h : ServesBut failing s.setup.source (Build.lenient p records)) (hr : Resolved s ids)
    (hids : ∀ id ∈ ids, id ∈ s.manifest.shardIds ∧ id ∉ failing)
    (ho : ∀ id ∈ ids, ∀ o told, s.stage id = .settled o told → o = load s.setup.source id) :
    AsBuilt p records s ids := by
  intro id hid
  obtain ⟨hknown, hok⟩ := hids id hid
  obtain ⟨shard, hshard, hname, hload⟩ := h.exists_shard hknown hok
  obtain ⟨o, hst⟩ := exists_settled_of_resolved (hr id hid)
  have houtcome := ho id hid o _ hst
  rw [hload] at houtcome
  exact ⟨shard, hshard, hname, houtcome ▸ hst⟩

theorem asBuilt_of_serves (h : Serves s.setup.source (Build.lenient p records)) (ho : StaysOpen s)
    (hr : Resolved s ids) (hknown : ids ⊆ s.manifest.shardIds) : AsBuilt p records s ids :=
  (servesBut_nil h).asBuilt hr (fun _ hid => ⟨hknown hid, List.not_mem_nil⟩)
    fun _ _ _ _ hst => ho.outcome hst

namespace AsBuilt

variable (h : AsBuilt p records s ids)
include h

theorem warnings_eq_nil : s.warnings ids = [] := by
  rw [warnings, List.filterMap_eq_nil_iff]
  intro id hid
  obtain ⟨shard, _, _, hst⟩ := h id hid
  rw [hst]
  rfl

/-- The ready shards are the built ones with these ids. -/
theorem mem_readyShards_iff :
    shard ∈ s.readyShards ids ↔ shard ∈ (Build.lenient p records).shards ∧ shard.id ∈ ids := by
  rw [mem_readyShards]
  constructor
  · rintro ⟨id, hid, hshard⟩
    obtain ⟨built, hbuilt, hname, hst⟩ := h id hid
    rw [hst] at hshard
    obtain rfl := Option.some.inj hshard
    exact ⟨hbuilt, hname.symm ▸ hid⟩
  · rintro ⟨hshard, hid⟩
    obtain ⟨built, hbuilt, hname, hst⟩ := h shard.id hid
    have heq : built = shard :=
      List.inj_on_of_nodup_map (Build.nodup_ids_lenient p records) hbuilt hshard hname
    refine ⟨shard.id, hid, ?_⟩
    rw [hst, heq]
    rfl

/-- The entries of the candidates are the merged ones of these shards. -/
theorem exists_candidate_iff {e : Entry} :
    (∃ c ∈ s.candidates ids, c.entry = e) ↔
      Build.Merges records e ∧ p.idOf e.key.toList ∈ ids := by
  rw [candidates_eq]
  constructor
  · rintro ⟨c, hc, rfl⟩
    obtain ⟨shard, hshard, hc⟩ := List.mem_flatMap.1 hc
    obtain ⟨hbuilt, hid⟩ := h.mem_readyShards_iff.1 hshard
    obtain ⟨i, e, he, rfl⟩ := mem_shardCandidates.1 hc
    obtain ⟨hm, hof⟩ := (Build.mem_entries_of_shard hbuilt).1 (List.mem_of_getElem? he)
    exact ⟨hm, hof.symm ▸ hid⟩
  · rintro ⟨hm, hid⟩
    obtain ⟨shard, hbuilt, hname⟩ := Build.exists_shard (p := p) hm
    have hshard := h.mem_readyShards_iff.2 ⟨hbuilt, hname ▸ hid⟩
    have he := (Build.mem_entries_of_shard hbuilt).2 ⟨hm, hname.symm⟩
    obtain ⟨i, hi⟩ := List.getElem?_of_mem he
    exact ⟨_, List.mem_flatMap.2 ⟨shard, hshard, mem_shardCandidates.2 ⟨i, e, hi, rfl⟩⟩, rfl⟩

/-- A candidate carries the id of the shard of its key. -/
theorem shardId_of_mem_candidates {c : Candidate} (hc : c ∈ s.candidates ids) :
    c.shardId = p.idOf c.entry.key.toList := by
  rw [candidates_eq] at hc
  obtain ⟨shard, hshard, hc⟩ := List.mem_flatMap.1 hc
  obtain ⟨hbuilt, _⟩ := h.mem_readyShards_iff.1 hshard
  obtain ⟨i, e, he, rfl⟩ := mem_shardCandidates.1 hc
  exact ((Build.mem_entries_of_shard hbuilt).1 (List.mem_of_getElem? he)).2.symm

/-- No key occurs twice among the candidates. -/
theorem nodup_keys_candidates (hs : Sound s) (hids : ids.Nodup) :
    ((s.candidates ids).map (·.entry.key)).Nodup := by
  rw [candidates_eq, List.map_flatMap, List.nodup_flatMap]
  constructor
  · intro shard hshard
    rw [map_key_shardCandidates]
    exact (Build.nodup_keys_shards p records).1 shard (h.mem_readyShards_iff.1 hshard).1
  · apply (hs.nodup_readyShards hids).of_map.pairwise_of_forall_ne
    intro a ha b hb hab
    simp only [Function.onFun, map_key_shardCandidates]
    intro k hka hkb
    obtain ⟨x, hx, hxk⟩ := List.mem_map.1 hka
    obtain ⟨y, hy, hyk⟩ := List.mem_map.1 hkb
    obtain ⟨hbuiltA, _⟩ := h.mem_readyShards_iff.1 ha
    obtain ⟨hbuiltB, _⟩ := h.mem_readyShards_iff.1 hb
    have hof := ((Build.mem_entries_of_shard hbuiltA).1 hx).2
    have hof' := ((Build.mem_entries_of_shard hbuiltB).1 hy).2
    rw [hxk] at hof
    rw [hyk] at hof'
    exact hab (List.inj_on_of_nodup_map (Build.nodup_ids_lenient p records) hbuiltA hbuiltB
      (hof.symm.trans hof'))

end AsBuilt

end SymbolIndex.Session
