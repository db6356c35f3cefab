import SymbolIndex.Proofs.Match.Grouping
import SymbolIndex.Proofs.Search
import SymbolIndex.Proofs.Session.LifeCycle

/-!
# A failure takes nothing else away

A shard that cannot be loaded gives a warning. The results of a query are those of the whole index
without the results of such shards, and the limit counts what is left.
-/

namespace SymbolIndex

open Session

variable {p : Partition} {records : List Record} {failing : List String} {mode : MatchMode}
  {query : String} {limit : Option Int} {es : List Entry} {s : Session} {setup : Setup}
  {actions : List Action} {id : String} {r : Response} {ids : List String}

/-! ### Results -/

/-- To cut the results of entries in strict order is to cut the entries. -/
theorem cutEntries_placedResults (p : Partition) (limit : Option Int)
    (hplaces : ∀ e ∈ es, e.occurrences ≠ []) (hsorted : es.Pairwise (Match.Before query)) :
    Match.cutEntries limit (es.flatMap (placedResults p)) =
      (Match.cut limit es).flatMap (placedResults p) := by
  let place : Entry → Match.Candidate := fun e => ⟨e, p.idOf e.key.toList, (0, 0)⟩
  have hexpand : ∀ es : List Entry, es.flatMap (placedResults p) = Match.expand (es.map place) := by
    intro es
    rw [Match.expand, List.flatMap_map]
    rfl
  have hdiffer : (es.map place).Pairwise Match.Candidate.Differs :=
    List.pairwise_map.2 (hsorted.imp fun h heq => h.key_ne heq.1)
  rw [hexpand, hexpand, Match.map_cut, Match.cutEntries_expand limit _ hdiffer.isChain]
  intro c hc
  obtain ⟨e, he, rfl⟩ := List.mem_map.1 hc
  exact hplaces e he

/-- To drop the results of some shards is to drop the entries of these shards. -/
theorem filter_placedResults (p : Partition) (failing : List String) (es : List Entry) :
    (es.flatMap (placedResults p)).filter (fun x => x.shardId ∉ failing) =
      (es.filter fun e => p.idOf e.key.toList ∉ failing).flatMap (placedResults p) := by
  have hshard : ∀ e, ∀ x ∈ placedResults p e, x.shardId = p.idOf e.key.toList := by
    intro e x hx
    obtain ⟨o, _, rfl⟩ := List.mem_map.1 hx
    rfl
  rw [List.filter_flatMap]
  induction es with
  | nil => rfl
  | cons e es ih =>
    rw [List.flatMap_cons, ih, List.filter_cons]
    split
    · rename_i hok
      rw [List.flatMap_cons, List.filter_eq_self.2]
      intro x hx
      rwa [hshard e x hx]
    · rename_i hfail
      rw [List.append_left_eq_self, List.filter_eq_nil_iff]
      intro x hx
      rwa [hshard e x hx]

/-- The answer to a query, less the results of some shards and then cut to a limit: the entries of
the other shards that match, up to the limit. -/
theorem IsAnswer.cutEntries_rest {full : List Match.Result}
    (hfull : IsAnswer p records mode none query full) (hsorted : es.Pairwise (Match.Before query))
    (hmem : ∀ e, e ∈ es ↔ (Build.Merges records e ∧ Match.Matches mode query e.key) ∧
      p.idOf e.key.toList ∉ failing) :
    Match.cutEntries limit (full.filter fun x => x.shardId ∉ failing) =
      (Match.cut limit es).flatMap (placedResults p) := by
  obtain ⟨all, hall, hallSorted, rfl⟩ := hfull
  have hrest : es = all.filter fun e => p.idOf e.key.toList ∉ failing := by
    refine eq_of_pairwise_before hsorted (hallSorted.filter _) fun e => ?_
    rw [hmem, List.mem_filter, hall, decide_eq_true_eq]
  rw [Match.cut, filter_placedResults, ← hrest]
  exact cutEntries_placedResults p limit (fun e he => ((hmem e).1 he).1.1.occurrences_ne) hsorted

/-! ### Failed loads -/

/-- Shards that are not ready have no candidates. -/
theorem candidates_filter (s : Session) (ids : List String) (keep : String → Bool)
    (h : ∀ id ∈ ids, keep id = false → (s.stage id).shard? = none) :
    s.candidates ids = s.candidates (ids.filter keep) := by
  unfold Session.candidates
  have hready : (ids.filter keep).filterMap (fun id => (s.stage id).shard?) =
      ids.filterMap fun id => (s.stage id).shard? := by
    rw [List.filterMap_filter]
    apply List.filterMap_congr
    intro id hid
    split
    · rfl
    · rename_i hkeep
      exact (h id hid (by simpa using hkeep)).symm
  rw [hready]

theorem mem_warnings {w : Warning} :
    w ∈ s.warnings ids ↔ w.shardId ∈ ids ∧ (s.stage w.shardId).failure? = some w.reason := by
  rw [warnings, List.mem_filterMap]
  constructor
  · rintro ⟨id, hid, h⟩
    obtain ⟨reason, hreason, rfl⟩ := Option.map_eq_some_iff.1 h
    exact ⟨hid, hreason⟩
  · rintro ⟨hid, h⟩
    exact ⟨w.shardId, hid, by rw [h]; rfl⟩

theorem shardIds_warnings (s : Session) (ids : List String) :
    (s.warnings ids).map (·.shardId) = ids.filter fun id => (s.stage id).failure?.isSome := by
  induction ids with
  | nil => rfl
  | cons id ids ih =>
    rw [warnings] at ih ⊢
    rw [List.filterMap_cons, List.filter_cons]
    cases h : (s.stage id).failure? with
    | none => simpa using ih
    | some reason => simpa using ih

theorem failure?_eq_some {stage : Stage} {reason : String} :
    stage.failure? = some reason ↔ ∃ told, stage = .settled (.error reason) told := by
  unfold Stage.failure?
  split <;> simp_all

/-- Of some shards, those that are not to fail load normally, even if the session is closed. -/
def OthersLoad (failing : List String) (setup : Setup) (actions : List Action)
    (ids : List String) : Prop :=
  .close ∈ actions → ∀ id ∈ ids, id ∉ failing → ((start setup).run actions).state id ≠ .failed

section
variable (h : ServesBut failing setup.source (Build.lenient p records))
include h

theorem consistent_run_of_servesBut (actions : List Action) :
    Consistent ((start setup).run actions) :=
  (consistent_start setup).run h.placed h.nodup actions

/-- The targets of a query are shards of the build, each once. -/
theorem targets_of_servesBut (actions : List Action) (query : String) :
    ((start setup).run actions).targets query ⊆ setup.source.manifest.shardIds ∧
      (((start setup).run actions).targets query).Nodup := by
  have hmanifest : ((start setup).run actions).manifest = setup.source.manifest := by
    rw [manifest, setup_run]
  rw [← hmanifest]
  refine ⟨fun id hid => (sound_run setup actions).mem_of_mem_targets hid, nodup_targets ?_ query⟩
  rw [hmanifest]
  exact h.nodup

theorem fails_of_failing (hid : id ∈ failing) {o : Outcome} {told : Told}
    (hst : ((start setup).run actions).stage id = .settled o told) :
    ∃ reason, o = .error reason := by
  rcases settled_run hst with ⟨_, ho⟩ | ⟨_, _, ho⟩
  · obtain ⟨reason, hbreaks⟩ := h.breaks id hid
    exact ⟨reason, ho.trans (load_eq_error.2 hbreaks)⟩
  · exact ⟨_, ho⟩

variable (hr : Resolved ((start setup).run actions) ids)
include hr

theorem candidates_others : ((start setup).run actions).candidates ids =
    ((start setup).run actions).candidates (ids.filter fun id => id ∉ failing) := by
  apply candidates_filter
  intro id hid hfail
  obtain ⟨o, hst⟩ := exists_settled_of_resolved (hr id hid)
  obtain ⟨reason, rfl⟩ := fails_of_failing h (by simpa using hfail) hst
  rw [hst]
  rfl

variable (hothers : OthersLoad failing setup actions ids)
  (hknown : ids ⊆ setup.source.manifest.shardIds)
include hothers hknown

theorem asBuilt_others :
    AsBuilt p records ((start setup).run actions) (ids.filter fun id => id ∉ failing) := by
  have hsplit : ∀ id ∈ ids.filter fun id => id ∉ failing, id ∈ ids ∧ id ∉ failing := by
    intro id hid
    simpa using List.mem_filter.1 hid
  rw [← setup_run setup actions] at h
  refine h.asBuilt (fun id hid => hr id (hsplit id hid).1) (fun id hid => ?_) ?_
  · obtain ⟨hid, hok⟩ := hsplit id hid
    rw [manifest, setup_run]
    exact ⟨hknown hid, hok⟩
  · intro id hid o told hst
    obtain ⟨hid, hok⟩ := hsplit id hid
    rcases settled_run hst with ⟨_, ho⟩ | ⟨hclose, _, ho⟩
    · rwa [setup_run]
    · refine absurd ?_ (hothers hclose id hid hok)
      rw [Session.state, hst, ho]
      rfl

/-- Of resolved shards, those fail that are to fail. -/
theorem failure?_isSome_iff (hid : id ∈ ids) :
    (((start setup).run actions).stage id).failure?.isSome ↔ id ∈ failing := by
  by_cases hfail : id ∈ failing
  · obtain ⟨o, hst⟩ := exists_settled_of_resolved (hr id hid)
    obtain ⟨reason, rfl⟩ := fails_of_failing h hfail hst
    rw [hst]
    exact iff_of_true rfl hfail
  · obtain ⟨shard, _, _, hst⟩ := asBuilt_others h hr hothers hknown id
      (List.mem_filter.2 ⟨hid, by simpa using hfail⟩)
    rw [hst]
    exact iff_of_false nofun hfail

end

/-! ### Answers -/

/-- A query that has key characters is answered, and its call was not overtaken. -/
def Answers (setup : Setup) (actions : List Action) (r : Response) : Prop :=
  ∃ generation, ((start setup).run actions).answered generation = some r ∧
    r.superseded = false ∧ r.query ≠ ""

theorem Answers.exists_call (h : Answers setup actions r)
    (hrun : Consistent ((start setup).run actions)) :
    ∃ c ∈ ((start setup).run actions).calls, c.query = r.query ∧ c.phase = .finished r := by
  obtain ⟨generation, hr, _, _⟩ := h
  obtain ⟨c, hc, _, hphase⟩ := hrun.numbered.answered_eq_some.1 hr
  exact ⟨c, hc, ((hrun.calls c hc).query_eq hphase).symm, hphase⟩

/-- An answer is what a scan of the targets gives. -/
theorem Answers.eq_scan (h : Answers setup actions r)
    (hrun : Consistent ((start setup).run actions)) :
    let s := (start setup).run actions
    let targets := s.targets r.query
    Resolved s targets ∧ r.warnings = s.warnings targets ∧
      r.results = Match.expand (Match.rank setup.mode r.query setup.limit
        (Match.filter setup.mode r.query (s.candidates targets))) := by
  intro s targets
  have hsetup : s.setup = setup := setup_run setup actions
  obtain ⟨c, hc, hquery, hphase⟩ := h.exists_call hrun
  obtain ⟨_, _, hcurrent, hq⟩ := h
  obtain ⟨hr, heq⟩ := hrun.eq_of_finished hc (hquery ▸ hq) hphase hcurrent
  rw [hquery] at hr heq
  have hwarnings := congrArg Response.warnings heq
  have hresults := congrArg Response.results heq
  rw [← hsetup]
  exact ⟨hr, hwarnings, hresults⟩

/-- A session over the whole build gives the answer to each query. -/
theorem Answers.isAnswer (h : Answers setup actions r)
    (hserves : Store.Serves setup.source (Build.lenient p records)) (hclose : .close ∉ actions) :
    IsAnswer p records setup.mode setup.limit r.query r.results := by
  have hopen : OpenOver p records ((start setup).run actions) :=
    (openOver_start hserves).run fun a ha heq => hclose (heq ▸ ha)
  obtain ⟨c, hc, hquery, hphase⟩ := h.exists_call hopen.consistent
  obtain ⟨_, _, hcurrent, hq⟩ := h
  have hanswered : ((start setup).run actions).answered c.generation = some r :=
    hopen.consistent.numbered.answered_eq_some.2 ⟨c, hc, rfl, hphase⟩
  obtain ⟨_, _, hanswer⟩ := hopen.isAnswer hc (hquery ▸ hq) hanswered hcurrent
  rwa [setup_run, hquery] at hanswer

/-- A session over the whole build can answer each query. -/
theorem exists_answers (hserves : Store.Serves setup.source (Build.lenient p records))
    {text : String} (hq : Key.normalize text ≠ "") :
    ∃ actions r, .close ∉ actions ∧ Answers setup actions r ∧ r.query = Key.normalize text := by
  have hbegun : OpenOver p records ((start setup).run [.begin text]) :=
    (openOver_start hserves).run (by simp)
  obtain ⟨c, hc, hgeneration, hquery⟩ := exists_begun_call (numbered_start setup) hq []
  obtain ⟨more, hmore, r, hr, hnewest⟩ := hbegun.exists_answer hc
  have hclose : .close ∉ Action.begin text :: more := by
    rintro (_ | ⟨_, hmem⟩)
    exact (hmore _ hmem).ne_close rfl
  have hcurrent : r.superseded = false := hnewest (by rw [hgeneration]; rfl)
  have hlater : OpenOver p records (((start setup).run [.begin text]).run more) :=
    hbegun.run fun a ha => (hmore a ha).ne_close
  obtain ⟨d, hd, hcd⟩ := exists_call_run hbegun.consistent.numbered hc more
  have hdq : d.query = Key.normalize text := hcd.query.trans hquery
  have hrq : r.query = Key.normalize text := by
    rw [← hcd.generation] at hr
    exact (hlater.isAnswer hd (hdq ▸ hq) hr hcurrent).1.trans hdq
  exact ⟨_, r, hclose, ⟨_, hr, hcurrent, hrq ▸ hq⟩, hrq⟩

/-- The results without those of the failing shards, cut to the limit. -/
theorem Answers.results_eq (h : Answers setup actions r)
    (hserves : ServesBut failing setup.source (Build.lenient p records))
    (hothers : OthersLoad failing setup actions (((start setup).run actions).targets r.query))
    {full : List Match.Result} (hfull : IsAnswer p records setup.mode none r.query full) :
    r.results = Match.cutEntries setup.limit (full.filter fun x => x.shardId ∉ failing) := by
  have hsound := sound_run setup actions
  obtain ⟨hr, _, hresults⟩ := h.eq_scan (consistent_run_of_servesBut hserves actions)
  obtain ⟨_, _, _, hq⟩ := h
  obtain ⟨hknown, hnodup⟩ := targets_of_servesBut hserves actions r.query
  have hbuilt := asBuilt_others hserves hr hothers hknown
  obtain ⟨es, hmem, hsorted, hes⟩ :=
    hbuilt.exists_ranked hsound (hnodup.filter _) setup.mode setup.limit hq
  rw [hresults, candidates_others hserves hr, hes, hfull.cutEntries_rest hsorted fun e => ?_]
  rw [hmem, List.mem_filter, decide_eq_true_eq]
  constructor
  · rintro ⟨⟨hmerges, _, hok⟩, hm⟩
    exact ⟨⟨hmerges, hm⟩, hok⟩
  · rintro ⟨⟨hmerges, hm⟩, hok⟩
    have htarget := hsound.idOf_mem_targets (p := p) (by rw [manifest, setup_run, hserves.manifest])
      hmerges (by rwa [setup_run])
    exact ⟨⟨hmerges, htarget, hok⟩, hm⟩

/-- The query of an answer is the normal form of some text. -/
theorem Answers.exists_text (h : Answers setup actions r)
    (hrun : Consistent ((start setup).run actions)) : ∃ text, r.query = Key.normalize text := by
  obtain ⟨c, hc, hquery, _⟩ := h.exists_call hrun
  have hname : c.name ∈ ((start setup).run actions).calls.map Call.name := List.mem_map_of_mem hc
  rw [names_run, List.mem_mapIdx] at hname
  obtain ⟨i, _, hname⟩ := hname
  exact ⟨_, hquery.symm.trans (congrArg Prod.snd hname).symm⟩

/-! ### Isolation -/

/-- Some shards of a build cannot be loaded, and the others that a query looks at load normally.
Then an answer has the results that a session over the whole build gives to the same query without
a limit, less those of these shards and then cut to the limit; and such a session can answer it.
The warnings are the failures of the targets among these shards, once each and in the order of the
targets, with the reason of the only fetch, or of a refusal if the session was closed before. -/
theorem failure_isolation {isStrict : Bool} {b : Build}
    (hb : Build.run isStrict p records = .ok b) (hserves : ServesBut failing setup.source b)
    (hothers : OthersLoad failing setup actions (((start setup).run actions).targets r.query))
    (hr : Answers setup actions r) :
    let s := (start setup).run actions
    (∀ whole : Setup, Store.Serves whole.source b → whole.mode = setup.mode → whole.limit = none →
      (∃ others r', .close ∉ others ∧ Answers whole others r' ∧ r'.query = r.query) ∧
      ∀ others r', .close ∉ others → Answers whole others r' → r'.query = r.query →
        r.results = Match.cutEntries setup.limit
          (r'.results.filter fun x => x.shardId ∉ failing)) ∧
    r.warnings.map (·.shardId) = (s.targets r.query).filter (fun id => id ∈ failing) ∧
    (r.warnings.map (·.shardId)).Nodup ∧
    ∀ w ∈ r.warnings,
      s.fetched.count w.shardId = 1 ∧ Breaks setup.source w.shardId w.reason ∨
        .close ∈ actions ∧ w.shardId ∉ s.fetched ∧ w.reason = shutdownReason := by
  intro s
  obtain rfl := Build.eq_lenient_of_run hb
  have hrun := consistent_run_of_servesBut hserves actions
  obtain ⟨hresolved, hwarnings, _⟩ := hr.eq_scan hrun
  obtain ⟨hknown, hnodup⟩ := targets_of_servesBut hserves actions r.query
  have hids : r.warnings.map (·.shardId) =
      (s.targets r.query).filter (fun id => id ∈ failing) := by
    rw [hwarnings, shardIds_warnings]
    refine List.filter_congr fun id hid => ?_
    rw [Bool.eq_iff_iff, decide_eq_true_eq]
    exact failure?_isSome_iff hserves hresolved hothers hknown hid
  refine ⟨fun whole hwhole hmode hlimit => ⟨?_, fun others r' hclose hr' hquery => ?_⟩, hids,
    hids ▸ hnodup.filter _, fun w hw => ?_⟩
  · obtain ⟨text, htext⟩ := hr.exists_text hrun
    obtain ⟨_, _, _, hq⟩ := hr
    rw [htext] at hq ⊢
    exact exists_answers hwhole hq
  · have hfull := hr'.isAnswer hwhole hclose
    rw [hmode, hlimit, hquery] at hfull
    exact hr.results_eq hserves hothers hfull
  · rw [hwarnings, mem_warnings] at hw
    obtain ⟨told, hst⟩ := failure?_eq_some.1 hw.2
    rcases settled_run hst with ⟨hcount, ho⟩ | ⟨hclose, hnot, ho⟩
    · exact .inl ⟨hcount, load_eq_error.1 ho.symm⟩
    · exact .inr ⟨hclose, hnot, Except.error.inj ho⟩

/-- Two records, whose keys belong to two shards. -/
def paddingRecords : List Record :=
  [.ofText "" "add" [⟨"a#add", ""⟩], .ofText "" "pad" [⟨"p#pad", ""⟩]]

def addShard : Shard := ⟨"a", [⟨"add", "add", [⟨"a#add", ""⟩]⟩]⟩

def padShard : Shard := ⟨"p", [⟨"pad", "pad", [⟨"p#pad", ""⟩]⟩]⟩

def padText : String :=
  "\x7b\"entries\":[[\"pad\",\"pad\",[[\"p#pad\",\"\"]]]]," ++
    "\"format\":\"docsearch-shard\",\"shard\":\"p\",\"version\":1\x7d\n"

theorem render_padShard : padShard.render = padText := by
  have hsorted : ∀ format version shard entries : List Char,
      Json.sortMembers
        [("format", format), ("version", version), ("shard", shard), ("entries", entries)] =
        [("entries", entries), ("format", format), ("shard", shard), ("version", version)] := by
    intro format version shard entries
    simp [Json.sortMembers, List.mergeSort, List.MergeSort.Internal.splitInTwo]
  rw [Shard.render, Document.render, Json.compact]
  simp only [Json.compactMembers]
  rw [hsorted]
  decide +kernel

theorem shards_padding : (Build.lenient .alpha paddingRecords).shards = [addShard, padShard] := by
  have hentries : Build.mergeAll (Build.validEntries paddingRecords) =
      addShard.entries ++ padShard.entries := by decide +kernel
  have hids : (((addShard.entries ++ padShard.entries).map fun e =>
      Partition.alpha.idOf e.key.toList).eraseDups.map fun id => (Partition.alpha.orderOf id, id)) =
        [(0, "a"), (15, "p")] := by decide +kernel
  rw [Build.shards_lenient, hentries, Build.divide]
  simp only [hids]
  rw [List.mergeSort_of_pairwise (by decide)]
  decide +kernel

/-- The index of these records without the document of its first shard. -/
def torn : Setup where
  source :=
    { manifest := ⟨.alpha, [⟨"a", 1⟩, ⟨"p", 1⟩]⟩
      fetch := fun id =>
        if id = "p" then .ok padText else .error ⟨"FileNotFoundError", "gone"⟩ }
  mode := .anywhere
  limit := some 1
  workers := 1
  hasListener := false

/-- A query, and one that extends it once the first is answered. -/
def tornActions : List Action :=
  .begin "a" :: List.replicate 3 (.advanceCall 1) ++ List.replicate 8 (.advanceLoad "a") ++
    List.replicate 8 (.advanceLoad "p") ++ List.replicate 4 (.advanceCall 1) ++
    .begin "ad" :: List.replicate 7 (.advanceCall 2)

def tornAnswer : Response :=
  ⟨"ad", [⟨"pad", "pad", "p#pad", "", "p"⟩], [⟨"a", "gone"⟩], false, 2⟩

theorem servesBut_torn : ServesBut ["a"] torn.source (Build.lenient .alpha paddingRecords) where
  manifest := by
    have hmanifest : (Build.lenient .alpha paddingRecords).manifest =
        ⟨.alpha, (Build.lenient .alpha paddingRecords).shards.map
          fun s => ⟨s.id, s.entries.length⟩⟩ := rfl
    rw [hmanifest, shards_padding]
    rfl
  fetch shard hshard hok := by
    rw [shards_padding] at hshard
    rcases List.mem_pair.1 hshard with rfl | rfl
    · exact absurd List.mem_cons_self hok
    · rw [render_padShard]
      rfl
  breaks id hid := by
    obtain rfl := List.mem_singleton.1 hid
    exact ⟨_, .unfetched rfl⟩

/-- The limit counts the entries that are left, though the first of the whole index is none of
them. -/
theorem failure_isolation_torn :
    Answers torn tornActions tornAnswer ∧
      ∃ whole others r', Store.Serves whole.source (.lenient .alpha paddingRecords) ∧
        whole.limit = none ∧ Answers whole others r' ∧ r'.query = "ad" ∧
        tornAnswer.results = Match.cutEntries (some 1)
          (r'.results.filter fun x => x.shardId ∉ ["a"]) ∧
        Breaks torn.source "a" "gone" := by
  have hr : Answers torn tornActions tornAnswer := ⟨2, by decide +kernel, rfl, by decide⟩
  have hclose : .close ∉ tornActions := by simp [tornActions]
  have hbuild : Build.run false .alpha paddingRecords = .ok (.lenient .alpha paddingRecords) := rfl
  have hwhole := Store.serves_ofBuild (Build.nodup_ids_lenient .alpha paddingRecords)
  obtain ⟨hresults, _, _, hreasons⟩ :=
    failure_isolation hbuild servesBut_torn (fun h => absurd h hclose) hr
  obtain ⟨⟨others, r', hothers, hr', hquery⟩, hcut⟩ :=
    hresults { torn with source := Store.ofBuild (.lenient .alpha paddingRecords), limit := none }
      hwhole rfl rfl
  refine ⟨hr, _, others, r', hwhole, rfl, hr', hquery, hcut others r' hothers hr' hquery, ?_⟩
  rcases hreasons ⟨"a", "gone"⟩ List.mem_cons_self with ⟨_, hbreaks⟩ | ⟨h, _⟩
  · exact hbreaks
  · exact absurd h hclose

end SymbolIndex
