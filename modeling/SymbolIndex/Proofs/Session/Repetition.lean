import SymbolIndex.Proofs.Manifest.Codec
import SymbolIndex.Proofs.Match.Grouping
import SymbolIndex.Proofs.Session.Latest
import SymbolIndex.Proofs.Shard.Codec

/-!
# Each match once

A call matches what a scan of some shards does, its targets among them and each of them once
(`Covering`). So its answer has one group for each match (`lists_each_match_once`), whatever the
shards hold and whether keys are in the shards of their own or not.

In the mode `anywhere` a query looks at the shards as the manifest lists them, and nothing refuses a
manifest that lists a shard twice: then each of its results is given twice
(`repeated_row_repeats_results`).
-/

namespace SymbolIndex.Session

open Match (Candidate)

variable {s t : Session} {c : Call} {a : Action} {phase : Phase} {snapshot : Snapshot}
  {ids : List String} {id : String} {shard : Shard}

/-! ### The invariant -/

/-- What a scan of some shards matched, the targets of a query among them. -/
structure Scanned (s : Session) (query : String) (targets : List String) (snapshot : Snapshot) :
    Prop where
  faithful : Faithful s snapshot
  query : snapshot.query = query
  targets : targets ⊆ snapshot.shardIds

/-- What a call relies on in its phase to cover its targets. -/
def PhaseCovers (s : Session) (c : Call) : Phase → Prop
  | .requesting _ | .waiting => True
  | .current => Resolved s c.targets
  | .reading last _ => Resolved s c.targets ∧ ∀ l ∈ last, Faithful s l
  | .matched snapshot _ => Scanned s c.query c.targets snapshot
  | .finished r => r.superseded = true ∨
    ∃ snapshot warnings, Scanned s c.query c.targets snapshot ∧ r = s.respond c snapshot warnings

/-- A call without key characters is answered at once; any other covers the targets of its query. -/
def Covers (s : Session) (c : Call) : Prop :=
  c.phase = .finished (.blank c.generation) ∨
    c.query ≠ "" ∧ c.targets = s.targets c.query ∧ PhaseCovers s c c.phase

structure Covering (s : Session) : Prop where
  sound : Sound s
  numbered : Numbered s
  last : ∀ l ∈ s.last, Faithful s l
  calls : ∀ c ∈ s.calls, Covers s c

theorem covering_start (setup : Setup) : Covering (start setup) where
  sound := sound_start setup
  numbered := numbered_start setup
  last _ h := nomatch h
  calls _ h := nomatch h

theorem Scanned.later {query : String} {targets : List String}
    (h : Scanned s query targets snapshot) (hlater : Later s t) :
    Scanned t query targets snapshot :=
  ⟨h.faithful.later hlater, h.query, h.targets⟩

theorem PhaseCovers.later (h : PhaseCovers s c phase) (hlater : Later s t) :
    PhaseCovers t c phase := by
  cases phase with
  | requesting | waiting => trivial
  | current => exact hlater.resolved_ids h
  | reading last warnings =>
    exact ⟨hlater.resolved_ids h.1, fun l hl => (h.2 l hl).later hlater⟩
  | matched snapshot warnings => exact Scanned.later h hlater
  | finished r =>
    rcases h with hout | ⟨snapshot, warnings, hscanned, hr⟩
    · exact .inl hout
    · refine .inr ⟨snapshot, warnings, hscanned.later hlater, ?_⟩
      rw [hr, respond, respond, hlater.setup]

theorem Covers.later (h : Covers s c) (hlater : Later s t) : Covers t c := by
  rcases h with hblank | ⟨hq, htargets, hphase⟩
  · exact .inl hblank
  · exact .inr ⟨hq, htargets.trans (hlater.targets c.query).symm, hphase.later hlater⟩

/-! ### Steps -/

theorem Covering.phaseCovers_of_callStep (h : Covering s) (hn : ListsOnce s.setup)
    (hq : c.query ≠ "") (htargets : c.targets = s.targets c.query)
    (hphase : PhaseCovers s c c.phase) (hstep : CallStep s c phase) : PhaseCovers s c phase := by
  cases hstep with
  | request | await => trivial
  | wake hc hr hg => exact hr
  | overtaken | late => exact .inl rfl
  | read hc =>
    rw [hc] at hphase
    exact ⟨hphase, h.last⟩
  | scan last warnings hc =>
    rw [hc] at hphase
    obtain ⟨hfaithful, hquery, hcovers⟩ := h.sound.faithful_matchesFor
      (hn.nodup_targets c.query) hq htargets hphase.1 hphase.2
    exact ⟨hfaithful, hquery, hcovers⟩
  | commit snapshot warnings hc hg =>
    rw [hc] at hphase
    exact .inr ⟨snapshot, warnings, hphase, rfl⟩

theorem Covering.last_step (h : Covering s) (a : Action) :
    ∀ l ∈ (s.step a).last, Faithful s l := by
  rcases step_calls s a with hsame | ⟨text, _, hbegin⟩ | ⟨c, hc, _, hadvance⟩
  · rw [hsame.last]
    exact h.last
  · rw [hbegin]
    exact h.last
  · rw [hadvance]
    rcases advanceOf_cases s c with ⟨hidle, _⟩ | ⟨_, _, _, hkept | ⟨snapshot, w, hphase, _, hl⟩⟩
    · rw [hidle]
      exact h.last
    · rw [hkept]
      exact h.last
    · rw [hl]
      rintro l ⟨⟩
      rcases h.calls c (h.numbered.call?_eq_some.1 hc).1 with hblank | ⟨_, _, hcovers⟩
      · rw [hphase] at hblank
        cases hblank
      · rw [hphase] at hcovers
        exact hcovers.faithful

theorem Covering.step (h : Covering s) (hn : ListsOnce s.setup) (a : Action) :
    Covering (s.step a) := by
  have hlater := later_step s a
  refine ⟨h.sound.step a, h.numbered.step a, fun l hl => (h.last_step a l hl).later hlater, ?_⟩
  refine forall_calls_step h.numbered h.calls (fun _ _ hc => hc.later hlater) (.inl rfl)
    (fun query hq => .inr ⟨hq, (hlater.targets query).symm, trivial⟩)
    fun c hc phase _ hstep hcovers => ?_
  rcases hcovers with hblank | ⟨hq, htargets, hphase⟩
  · exact absurd hblank (hstep.not_finished _)
  · refine .inr ⟨hq, htargets.trans (hlater.targets c.query).symm, ?_⟩
    exact (h.phaseCovers_of_callStep hn hq htargets hphase hstep).later hlater

theorem covering_run {setup : Setup} (hn : ListsOnce setup) (actions : List Action) :
    Covering ((start setup).run actions) := by
  have hrun : Covering ((start setup).run actions) ∧
      ((start setup).run actions).setup = setup := by
    refine run_induction (P := fun t => Covering t ∧ t.setup = setup)
      ⟨covering_start setup, rfl⟩ ?_
    rintro t ⟨ht, hset⟩ a _
    exact ⟨ht.step (hset ▸ hn) a, (setup_step t a).trans hset⟩
  exact hrun.1

/-! ### Matches one by one -/

theorem Sound.wellFormed_of_ready (hs : Sound s) (h : (s.stage id).shard? = some shard) :
    shard.WellFormed := by
  obtain ⟨_, text, _, hread⟩ := load_eq_ok (hs.load_of_ready h)
  exact Shard.wellFormed_of_read hread

theorem map_place_shardCandidates (order : Nat) (shard : Shard) :
    (shardCandidates order shard).map Candidate.place = shard.keys.map (shard.id, ·) := by
  rw [← map_key_shardCandidates order, List.map_map]
  refine List.map_congr_left fun c hc => ?_
  rw [Candidate.place, shardId_of_mem_shardCandidates hc]
  rfl

/-- No entry is a candidate twice. -/
theorem Sound.nodup_places (hs : Sound s) (hids : ids.Nodup) :
    ((s.candidates ids).map Candidate.place).Nodup := by
  rw [candidates_eq, List.map_flatMap, List.nodup_flatMap]
  constructor
  · intro shard hshard
    obtain ⟨id, _, hready⟩ := mem_readyShards.1 hshard
    rw [map_place_shardCandidates]
    exact (hs.wellFormed_of_ready hready).2.1.map fun _ _ h => (Prod.mk.inj h).2
  · refine (List.pairwise_map.1 (hs.nodup_readyShards hids)).imp fun {a b} hab => ?_
    simp only [Function.onFun, map_place_shardCandidates]
    rintro x hx hy
    obtain ⟨_, _, rfl⟩ := List.mem_map.1 hx
    obtain ⟨_, _, heq⟩ := List.mem_map.1 hy
    exact hab (Prod.mk.inj heq).1.symm

/-- The matches of a query, each entry once: all those in its targets that are ready, and no others
but keys that are not in the shards of their own. -/
structure AllMatches (s : Session) (query : String) (ms : List Candidate) : Prop where
  nodup : (ms.map Candidate.place).Nodup
  complete : ∀ id ∈ s.targets query, ∀ shard, (s.stage id).shard? = some shard →
    ∀ e ∈ shard.entries, (Match.position s.setup.mode query e.key).isSome →
      ∃ m ∈ ms, m.shardId = id ∧ m.entry = e
  isMatch : ∀ m ∈ ms, (Match.position s.setup.mode query m.entry.key).isSome
  ready : ∀ m ∈ ms, ∃ shard, (s.stage m.shardId).shard? = some shard ∧ m.entry ∈ shard.entries
  target : ∀ m ∈ ms, m.shardId ∈ s.targets query ∨
    s.setup.mode = .start ∧ s.manifest.partition.shardOf m.entry.key ≠ .ok m.shardId

variable {query : String} {ms : List Candidate} {r : Response}

theorem allMatches_blank (s : Session) : AllMatches s "" [] := by
  refine ⟨List.nodup_nil, fun _ _ _ _ e _ h => ?_, nofun, nofun, nofun⟩
  unfold Match.position at h
  rw [if_pos rfl] at h
  cases h

theorem Scanned.mem_ranked {targets : List String} (h : Scanned s query targets snapshot)
    {m : Candidate} : m ∈ Match.ranked s.setup.mode query snapshot.matched ↔
      m ∈ s.candidates snapshot.shardIds ∧
        (Match.position s.setup.mode query m.entry.key).isSome := by
  have hq : query ≠ "" := h.query ▸ h.faithful.query
  rw [(Match.ranked_perm _ _ _).mem_iff, h.faithful.matched, h.query,
    Match.filter_filter hq hq List.prefix_rfl, Match.filter, List.mem_filter]

/-- What a scan of some shards matched are the matches of the query. -/
theorem Scanned.allMatches (h : Scanned s query (s.targets query) snapshot) (hs : Sound s) :
    AllMatches s query (Match.ranked s.setup.mode query snapshot.matched) := by
  have hq : query ≠ "" := h.query ▸ h.faithful.query
  have hshard : ∀ m ∈ Match.ranked s.setup.mode query snapshot.matched,
      m.shardId ∈ snapshot.shardIds ∧
        ∃ shard, (s.stage m.shardId).shard? = some shard ∧ m.entry ∈ shard.entries :=
    fun m hm => hs.exists_candidate_iff.1 ⟨m, (h.mem_ranked.1 hm).1, rfl, rfl⟩
  refine ⟨?_, fun id hid shard hready e he hposition => ?_, fun m hm => (h.mem_ranked.1 hm).2,
    fun m hm => (hshard m hm).2, fun m hm => ?_⟩
  · rw [((Match.ranked_perm _ _ _).map _).nodup_iff]
    refine (hs.nodup_places h.faithful.nodup).sublist (.map _ ?_)
    rw [h.faithful.matched]
    exact List.filter_sublist.trans List.filter_sublist
  · have hcandidate : ∃ m ∈ s.candidates snapshot.shardIds, m.shardId = id ∧ m.entry = e :=
      hs.exists_candidate_iff.2 ⟨h.targets hid, shard, hready, he⟩
    obtain ⟨m, hm, rfl, rfl⟩ := hcandidate
    exact ⟨m, h.mem_ranked.2 ⟨hm, hposition⟩, rfl, rfl⟩
  · by_cases hof : s.setup.mode = .start →
      s.manifest.partition.shardOf m.entry.key = .ok m.shardId
    · have hmatches := (Match.isSome_position_iff hq).1 (h.mem_ranked.1 hm).2
      exact .inl (hs.mem_targets_of_placed (h.faithful.known (hshard m hm).1) hmatches hof)
    · rw [Classical.not_imp] at hof
      exact .inr hof

/-- Results of matches fall into one group for each match. -/
theorem AllMatches.groups_eq (h : AllMatches s query ms) (hs : Sound s)
    (hr : r.results = Match.expand (Match.cut s.setup.limit ms)) :
    r.groups = (Match.cut s.setup.limit ms).map Candidate.group := by
  rw [Response.groups, hr]
  refine Match.group_expand (fun m hm => ?_)
    (Match.isChain_differs (h.nodup.sublist ((Match.cut_sublist _ ms).map _)))
  obtain ⟨shard, hshard, he⟩ := h.ready m (Match.mem_of_mem_cut hm)
  exact ((hs.wellFormed_of_ready hshard).2.2 _ he).2

/-! ### Answers -/

/-- An answer comes from all matches of its query. -/
theorem Covering.exists_allMatches (h : Covering s) {generation : Nat}
    (hr : s.answered generation = some r) (hcurrent : r.superseded = false) :
    ∃ ms, AllMatches s r.query ms ∧ r.results = Match.expand (Match.cut s.setup.limit ms) := by
  obtain ⟨c, hc, _, hphase⟩ := h.numbered.answered_eq_some.1 hr
  rcases h.calls c hc with hblank | ⟨_, htargets, hcovers⟩
  · rw [hphase] at hblank
    obtain rfl := Phase.finished.inj hblank
    refine ⟨[], allMatches_blank s, ?_⟩
    cases s.setup.limit <;> simp [Response.blank, Match.cut, Match.expand]
  · rw [hphase] at hcovers
    rcases hcovers with hout | ⟨snapshot, warnings, hscanned, rfl⟩
    · rw [hout] at hcurrent
      cases hcurrent
    · rw [htargets] at hscanned
      exact ⟨_, hscanned.allMatches h.sound, congrArg Match.expand (Match.rank_eq _ _ _ _)⟩

/-- An answer that is not overtaken has one group for each match, with all its occurrences in
order; a limit takes the first of them. A query that looks at all shards needs a manifest that
lists none of them twice. -/
theorem lists_each_match_once (setup : Setup) (hn : ListsOnce setup) (actions : List Action)
    (generation : Nat) (r : Response)
    (hr : ((start setup).run actions).answered generation = some r)
    (hcurrent : r.superseded = false) :
    ∃ ms, AllMatches ((start setup).run actions) r.query ms ∧
      r.groups = (Match.cut setup.limit ms).map Candidate.group ∧
      (∀ n, setup.limit = some n → r.groups.length = min (max 1 n.toNat) ms.length) ∧
      (setup.limit = none → ∀ m ∈ ms, ∀ o,
        r.results.count (m.result o) = m.entry.occurrences.count o) := by
  have h := covering_run hn actions
  have hsetup : ((start setup).run actions).setup = setup := (later_run _ actions).setup
  obtain ⟨ms, hms, hresults⟩ := h.exists_allMatches hr hcurrent
  have hgroups := hms.groups_eq h.sound hresults
  rw [hsetup] at hgroups hresults
  refine ⟨ms, hms, hgroups, fun n hlimit => ?_, fun hlimit m hm o => ?_⟩
  · rw [hgroups, List.length_map, hlimit, Match.length_cut]
  · rw [hresults, hlimit]
    exact Match.count_expand hms.nodup hm o

/-- What the newest call answers once it has read what is remembered. -/
theorem Numbered.answered_of_reading (hn : Numbered s) (hc : c ∈ s.calls)
    {last : Option Snapshot} {warnings : List Warning} (hphase : c.phase = .reading last warnings)
    (hnewest : c.generation = s.generation) :
    (s.run [.advanceCall c.generation, .advanceCall c.generation]).answered c.generation =
      some (s.respond c (s.matchesFor last c) warnings) := by
  have hstep : Session.step s (.advanceCall c.generation) =
      s.setPhase c.generation (.matched (s.matchesFor last c) warnings) := by
    rw [Session.step, advanceCall, hn.call?_eq_some.2 ⟨hc, rfl⟩]
    simp only [advanceOf, hphase]
  have hcommits : Commits (s.setPhase c.generation (.matched (s.matchesFor last c) warnings))
      (.advanceCall c.generation) { c with phase := .matched (s.matchesFor last c) warnings }
      (s.matchesFor last c) warnings := by
    refine ⟨(hn.mem_setPhase hc).2 (.inl rfl), rfl, rfl, hnewest.trans ?_⟩
    simp only [generation, setPhase, List.length_map]
  have hanswer := hcommits.response (hstep ▸ hn.step _)
  rw [Session.run, List.foldl_cons, List.foldl_cons, List.foldl_nil, hstep]
  exact hanswer

/-- A manifest of some shards, over a source that has two of one entry each. -/
def listing (ids : List String) : Setup where
  source :=
    { manifest := ⟨.alpha, ids.map (⟨·, 1⟩)⟩
      fetch := fun id =>
        if id = "a" then
          .ok ("\x7b\"entries\":[[\"alpha\",\"alpha\",[[\"a.html\",\"\"]]]]," ++
            "\"format\":\"docsearch-shard\",\"shard\":\"a\",\"version\":1\x7d")
        else if id = "m" then
          .ok ("\x7b\"entries\":[[\"map\",\"map\",[[\"m.html\",\"\"],[\"m.html\",\"\"]]]]," ++
            "\"format\":\"docsearch-shard\",\"shard\":\"m\",\"version\":1\x7d")
        else .error ⟨"FileNotFoundError", "no shard"⟩ }
  mode := .anywhere
  limit := none
  workers := 1
  hasListener := false

/-- A query, and all that it takes until it has its shards. -/
def listingLoads : List Action :=
  .begin "a" :: List.replicate 3 (.advanceCall 1) ++ List.replicate 8 (.advanceLoad "a") ++
    List.replicate 8 (.advanceLoad "m") ++ List.replicate 2 (.advanceCall 1)

/-- The same, and its answer. -/
def listingActions : List Action := listingLoads ++ [.advanceCall 1, .advanceCall 1]

def alphaEntry : Entry := ⟨"alpha", "alpha", [⟨"a.html", ""⟩]⟩

def mapEntry : Entry := ⟨"map", "map", [⟨"m.html", ""⟩, ⟨"m.html", ""⟩]⟩

theorem lists_each_match_once_listing : ∃ r ms,
    ((start (listing ["a", "m"])).run listingActions).answered 1 = some r ∧
    r.superseded = false ∧ AllMatches ((start (listing ["a", "m"])).run listingActions) "a" ms ∧
    r.groups = ms.map Candidate.group ∧
    (∃ m ∈ ms, m.shardId = "a" ∧ m.entry = alphaEntry) ∧
    ∃ m ∈ ms, m.shardId = "m" ∧ m.entry = mapEntry ∧
      r.results.count (m.result ⟨"m.html", ""⟩) = 2 := by
  have hanswer : (((start (listing ["a", "m"])).run listingActions).answered 1).map
      (fun r => (r.query, r.superseded)) = some ("a", false) := by decide +kernel
  obtain ⟨r, hr, heq⟩ := Option.map_eq_some_iff.1 hanswer
  obtain ⟨hquery, hcurrent⟩ := Prod.mk.inj heq
  have halpha : (((start (listing ["a", "m"])).run listingActions).stage "a").shard? =
      some ⟨"a", [alphaEntry]⟩ := by
    decide +kernel
  have hmap : (((start (listing ["a", "m"])).run listingActions).stage "m").shard? =
      some ⟨"m", [mapEntry]⟩ := by
    decide +kernel
  obtain ⟨ms, hms, hgroups, _, hcount⟩ := lists_each_match_once (listing ["a", "m"])
    (fun _ => by decide) listingActions 1 r hr hcurrent
  rw [hquery] at hms
  refine ⟨r, ms, hr, hcurrent, hms, hgroups, ?_, ?_⟩
  · exact hms.complete "a" (by decide +kernel) _ halpha alphaEntry (by decide) (by decide +kernel)
  · obtain ⟨m, hm, hid, hentry⟩ :=
      hms.complete "m" (by decide +kernel) _ hmap mapEntry (by decide) (by decide +kernel)
    refine ⟨m, hm, hid, hentry, ?_⟩
    rw [hcount rfl m hm, hentry]
    decide

/-- The one entry of a shard that is listed twice. -/
def alphaCandidate : Candidate := ⟨alphaEntry, "a", (1, 0)⟩

abbrev repeatedLoads : Session := (start (listing ["a", "a"])).run listingLoads

theorem candidates_repeated :
    repeatedLoads.candidates ["a", "a"] = [alphaCandidate, alphaCandidate] := by
  have hready : (repeatedLoads.stage "a").shard? = some ⟨"a", [alphaEntry]⟩ := by decide +kernel
  have horder : repeatedLoads.orderOf "a" = 1 := by decide +kernel
  have hshards : ["a", "a"].filterMap (fun id => (repeatedLoads.stage id).shard?) =
      [⟨"a", [alphaEntry]⟩, ⟨"a", [alphaEntry]⟩] := by
    simp [hready]
  rw [candidates_eq, readyShards, hshards, List.mergeSort_of_pairwise (by simp)]
  simp only [List.flatMap_cons, List.flatMap_nil, horder]
  rfl

theorem ranked_repeated : Match.ranked .anywhere "a" [alphaCandidate, alphaCandidate] =
    [alphaCandidate, alphaCandidate] := by
  have hhits : Match.hits .anywhere "a" [alphaCandidate, alphaCandidate] =
      [⟨0, alphaCandidate⟩, ⟨0, alphaCandidate⟩] := by
    have hposition : Match.position .anywhere "a" alphaCandidate.entry.key = some 0 := by
      decide +kernel
    simp [Match.hits, hposition]
  rw [Match.ranked, hhits, List.mergeSort_of_pairwise (by decide +kernel)]
  rfl

/-- A manifest that lists a shard twice is read, and a query that looks at all shards gives each
result of that shard twice. -/
theorem repeated_row_repeats_results : ∃ m r,
    Manifest.read m.render = .ok m ∧ (listing ["a", "a"]).source.manifest = m ∧
    ((start (listing ["a", "a"])).run listingActions).answered 1 = some r ∧
    r.superseded = false ∧
    (((start (listing ["a", "a"])).run listingActions).stage "a").shard? =
      some ⟨"a", [alphaEntry]⟩ ∧
    alphaEntry.occurrences.count ⟨"a.html", ""⟩ = 1 ∧
    r.results.count ⟨"alpha", "alpha", "a.html", "", "a"⟩ = 2 := by
  have hwritable : (listing ["a", "a"]).source.manifest.Writable :=
    Manifest.isPrintable_iff.1 (by decide +kernel)
  let c : Call := ⟨1, "a", ["a", "a"], .reading none []⟩
  have hc : c ∈ repeatedLoads.calls := by decide +kernel
  have hmatched : (repeatedLoads.matchesFor none c).matched = [alphaCandidate, alphaCandidate] := by
    show Match.filter _ _ (repeatedLoads.candidates ["a", "a"]) = _
    rw [candidates_repeated]
    decide +kernel
  have hanswer := (numbered_run (listing ["a", "a"]) listingLoads).answered_of_reading hc rfl
    (by decide +kernel)
  rw [← run_append] at hanswer
  refine ⟨_, _, Manifest.read_render hwritable, rfl, hanswer, rfl, by decide +kernel, by decide, ?_⟩
  show (Match.expand (Match.cut none (Match.ranked .anywhere "a"
    (repeatedLoads.matchesFor none c).matched))).count _ = 2
  rw [hmatched, ranked_repeated]
  decide

end SymbolIndex.Session
