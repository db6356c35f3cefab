import SymbolIndex.Proofs.Session.History
import SymbolIndex.Proofs.Session.Progress
import SymbolIndex.Proofs.Session.Served

/-!
# What a search answers

From records to results: a query over an index that was built from records, however it is served
and whatever else its session does, answers with the merged entries that the query matches, in
rank order, up to the limit (`search_correct`).
-/

namespace SymbolIndex

open Session SymbolIndex.Effect

variable {p : Partition} {records : List Record} {mode : MatchMode} {limit : Option Int}
  {query : String} {s : Session} {b : Build}

/-! ### Answers -/

/-- The results of an entry: one for each occurrence, in order. -/
def placedResults (p : Partition) (e : Entry) : List Match.Result :=
  e.occurrences.map fun o =>
    ⟨e.key, e.displayName, o.anchorUrl, o.scopeLabel, p.idOf e.key.toList⟩

/-- The answer to a query about records: the merged entries whose keys match, each once and in
strict order, up to the limit, with all their occurrences. -/
def IsAnswer (p : Partition) (records : List Record) (mode : MatchMode) (limit : Option Int)
    (query : String) (results : List Match.Result) : Prop :=
  ∃ es : List Entry,
    (∀ e, e ∈ es ↔ Build.Merges records e ∧ Match.Matches mode query e.key) ∧
    es.Pairwise (Match.Before query) ∧
    results = (Match.cut limit es).flatMap (placedResults p)

/-- Entries in strict order are given by which ones they are. -/
theorem eq_of_pairwise_before {es es' : List Entry} (hsorted : es.Pairwise (Match.Before query))
    (hsorted' : es'.Pairwise (Match.Before query)) (hmem : ∀ e, e ∈ es ↔ e ∈ es') : es = es' := by
  have hirrefl : ∀ e, ¬ Match.Before query e e := fun e he => he.not_symm he
  have hperm : es.Perm es' := by
    refine (List.perm_ext_iff_of_nodup (hsorted.imp fun {a b} hab => ?_)
      (hsorted'.imp fun {a b} hab => ?_)).2 hmem
    · rintro rfl; exact hirrefl a hab
    · rintro rfl; exact hirrefl a hab
  exact hperm.eq_of_pairwise (fun a b _ _ hab hba => absurd hba hab.not_symm) hsorted hsorted'

/-- There is one answer only. -/
theorem IsAnswer.unique {results results' : List Match.Result}
    (h : IsAnswer p records mode limit query results)
    (h' : IsAnswer p records mode limit query results') : results = results' := by
  obtain ⟨es, hmem, hsorted, rfl⟩ := h
  obtain ⟨es', hmem', hsorted', rfl⟩ := h'
  rw [eq_of_pairwise_before hsorted hsorted' fun e => (hmem e).trans (hmem' e).symm]

theorem results_eq_placedResults {c : Match.Candidate}
    (h : c.shardId = p.idOf c.entry.key.toList) : c.results = placedResults p c.entry := by
  rw [Match.Candidate.results, placedResults, h]

/-- What a query ranks among shards that are loaded as they were built: the merged entries of these
shards whose keys match, in strict order. -/
theorem Session.AsBuilt.exists_ranked {ids : List String} (h : AsBuilt p records s ids)
    (hs : Sound s) (hids : ids.Nodup) (mode : MatchMode) (limit : Option Int) (hq : query ≠ "") :
    ∃ es : List Entry,
      (∀ e, e ∈ es ↔ (Build.Merges records e ∧ p.idOf e.key.toList ∈ ids) ∧
        Match.Matches mode query e.key) ∧
      es.Pairwise (Match.Before query) ∧
      Match.expand (Match.rank mode query limit (Match.filter mode query (s.candidates ids))) =
        (Match.cut limit es).flatMap (placedResults p) := by
  have hkeys := h.nodup_keys_candidates hs hids
  generalize hcs : Match.filter mode query (s.candidates ids) = cs
  have hcskeys : (cs.map (·.entry.key)).Nodup := by
    rw [← hcs]
    exact hkeys.sublist (List.filter_sublist.map _)
  have hself : Match.filter mode query cs = cs := by
    rw [← hcs, Match.filter_filter hq hq (List.prefix_refl _)]
  have hperm : (Match.ranked mode query cs).Perm cs := by
    have := Match.ranked_perm mode query cs
    rwa [hself] at this
  refine ⟨(Match.ranked mode query cs).map (·.entry), fun e => ?_,
    Match.pairwise_before_ranked hq hcskeys, ?_⟩
  · rw [← h.exists_candidate_iff, List.mem_map]
    simp only [hperm.mem_iff]
    rw [← hcs]
    constructor
    · rintro ⟨c, hc, rfl⟩
      obtain ⟨hc, hm⟩ := (Match.mem_filter hq).1 hc
      exact ⟨⟨c, hc, rfl⟩, hm⟩
    · rintro ⟨⟨c, hc, rfl⟩, hm⟩
      exact ⟨c, (Match.mem_filter hq).2 ⟨hc, hm⟩, rfl⟩
  · rw [Match.rank_eq, Match.expand, ← Match.map_cut, List.flatMap_map]
    refine List.flatMap_congr fun c hc => results_eq_placedResults ?_
    have hmem := hperm.mem_iff.1 (Match.mem_of_mem_cut hc)
    rw [← hcs] at hmem
    exact h.shardId_of_mem_candidates (List.mem_filter.1 hmem).1

/-- The shard of an entry that matches is a target. -/
theorem Session.Sound.idOf_mem_targets (hs : Sound s)
    (hmanifest : s.manifest = (Build.lenient p records).manifest) {e : Entry}
    (hmerges : Build.Merges records e) (hm : Match.Matches s.setup.mode query e.key) :
    p.idOf e.key.toList ∈ s.targets query := by
  obtain ⟨shard, hbuilt, hname⟩ := Build.exists_shard (p := p) hmerges
  have hid : p.idOf e.key.toList ∈ s.manifest.shardIds := by
    rw [hmanifest, Build.shardIds_lenient, ← hname]
    exact List.mem_map_of_mem hbuilt
  unfold targets
  split
  · exact hid
  · rename_i hmode
    rw [hmode] at hm
    rw [hmanifest, Build.partition_lenient]
    exact List.mem_filter.2 ⟨Partition.idOf_mem_idsFor p hm, hs.isKnown_iff.2 hid⟩

/-- What a call answers once its targets are loaded. -/
theorem isAnswer_of_resolved (h : Store.Serves s.setup.source (Build.lenient p records))
    (ho : StaysOpen s) (hs : Sound s) (hq : query ≠ "") (hr : Resolved s (s.targets query)) :
    IsAnswer p records s.setup.mode s.setup.limit query
      (Match.expand (Match.rank s.setup.mode query s.setup.limit
        (Match.filter s.setup.mode query (s.candidates (s.targets query))))) := by
  have hknown : s.targets query ⊆ s.manifest.shardIds := fun id hid => hs.mem_of_mem_targets hid
  have hbuilt : AsBuilt p records s (s.targets query) := asBuilt_of_serves h ho hr hknown
  obtain ⟨es, hmem, hsorted, hresults⟩ :=
    hbuilt.exists_ranked hs (nodup_targets (servesBut_nil h).nodup query) _ _ hq
  refine ⟨es, fun e => ?_, hsorted, hresults⟩
  rw [hmem, and_right_comm]
  exact and_iff_left_of_imp fun ⟨hmerges, hm⟩ => hs.idOf_mem_targets h.manifest hmerges hm

/-! ### Served indexes -/

/-- How a build reaches a session: from memory, or from a new directory that it was written to. -/
inductive Served (b : Build) : Source → Prop where
  | memory : Served b (Store.ofBuild b)
  | directory {out : File.Path} {w w' w'' : World} {source : Source}
    (hwritten : Store.Written b out w w') (hopened : Gives (Store.openIndex out) w' source w'') :
    Served b source

theorem Served.serves {source : Source} (h : Served (Build.lenient p records) source) :
    Store.Serves source (Build.lenient p records) := by
  cases h with
  | memory => exact Store.serves_ofBuild (Build.nodup_ids_lenient p records)
  | directory hwritten hopened =>
    obtain ⟨source', hopened', hserves⟩ := hwritten.openIndex
    have heq := hopened.symm.trans hopened'
    obtain rfl := Except.ok.inj (Prod.mk.inj heq).1
    exact hserves

/-! ### Sessions -/

/-- A session over a build, not closed. -/
structure OpenOver (p : Partition) (records : List Record) (s : Session) : Prop where
  serves : Store.Serves s.setup.source (Build.lenient p records)
  stays : StaysOpen s
  consistent : Consistent s
  late : OvertakenLate s

theorem openOver_start {setup : Setup}
    (h : Store.Serves setup.source (Build.lenient p records)) :
    OpenOver p records (start setup) where
  serves := h
  stays := staysOpen_start setup
  consistent := consistent_start setup
  late := overtakenLate_start setup

theorem OpenOver.run (h : OpenOver p records s) {actions : List Action}
    (ha : ∀ a ∈ actions, a ≠ .close) : OpenOver p records (s.run actions) where
  serves := by
    rw [(later_run s actions).setup]
    exact h.serves
  stays := h.stays.run ha
  consistent :=
    h.consistent.run (servesBut_nil h.serves).placed (servesBut_nil h.serves).nodup actions
  late := h.late.run h.consistent.numbered actions

/-- What a call that was not overtaken answers. -/
theorem OpenOver.isAnswer (h : OpenOver p records s) {c : Call} (hc : c ∈ s.calls)
    (hq : c.query ≠ "") {r : Response} (hr : s.answered c.generation = some r)
    (hcurrent : r.superseded = false) :
    r.query = c.query ∧ r.warnings = [] ∧
      IsAnswer p records s.setup.mode s.setup.limit c.query r.results := by
  have hs := h.consistent.sound
  rw [answered, h.consistent.numbered.call?_eq_some.2 ⟨hc, rfl⟩, Option.bind_some] at hr
  have hphase := finished_of_response? hr
  obtain ⟨hresolved, rfl⟩ := h.consistent.eq_of_finished hc hq hphase hcurrent
  have hknown : s.targets c.query ⊆ s.manifest.shardIds :=
    fun id hid => hs.mem_of_mem_targets hid
  refine ⟨rfl, ?_, ?_⟩
  · exact (asBuilt_of_serves h.serves h.stays hresolved hknown).warnings_eq_nil
  · exact isAnswer_of_resolved h.serves h.stays hs hq hresolved

/-- A call can be carried to its answer, which is its own if it is the newest. -/
theorem OpenOver.exists_answer (h : OpenOver p records s) {c : Call} (hc : c ∈ s.calls) :
    ∃ more : List Action, (∀ a ∈ more, a.IsWork) ∧
      ∃ r, (s.run more).answered c.generation = some r ∧
        (s.generation = c.generation → r.superseded = false) := by
  obtain ⟨more, hmore, r, hr⟩ :=
    h.consistent.exists_answer (servesBut_nil h.serves).placed (servesBut_nil h.serves).nodup hc
  refine ⟨more, hmore, r, hr, fun hnewest => ?_⟩
  have hlate := h.late.run h.consistent.numbered more
  apply hlate.current (h.consistent.numbered.run more)
  rw [generation_run_of_isWork hmore, hnewest]
  exact hr

/-! ### From records to results -/

/-- A build succeeds if it is lenient or no record is invalid, and it can be opened from a new
directory that it was written to. Then in every session that is not closed, each query with key
characters gets an answer, of its own as long as no other query began after it; an answer that was
not overtaken has no warnings, and its results are those that the records give. -/
theorem search_correct (isStrict : Bool) (p : Partition) (records : List Record)
    (hvalid : isStrict = true → ∀ r ∈ records, r.valid?.isSome) :
    ∃ b, Build.run isStrict p records = .ok b ∧
      (∀ out w w', Store.Written b out w w' → ∃ source, Gives (Store.openIndex out) w' source w') ∧
      ∀ setup : Setup, Served b setup.source → ∀ (before after : List Action) (text : String),
        (∀ a ∈ before, a ≠ .close) → (∀ a ∈ after, a ≠ .close) → Key.normalize text ≠ "" →
        let s := (start setup).run before
        let t := s.run (.begin text :: after)
        (∀ r, t.answered (s.generation + 1) = some r → r.superseded = false →
          r.query = Key.normalize text ∧ r.warnings = [] ∧
            ∀ results, IsAnswer p records setup.mode setup.limit (Key.normalize text) results ↔
              results = r.results) ∧
        ∃ more, (∀ a ∈ more, a.IsWork) ∧ ∃ r, (t.run more).answered (s.generation + 1) = some r ∧
          (t.generation = s.generation + 1 → r.superseded = false) := by
  refine ⟨Build.lenient p records, Build.run_eq_lenient hvalid, fun out w w' hw => ?_, ?_⟩
  · obtain ⟨source, hopened, _⟩ := hw.openIndex
    exact ⟨source, hopened⟩
  intro setup hserved before after text hbefore hafter hq s t
  have hs : OpenOver p records s := (openOver_start hserved.serves).run hbefore
  have ht : OpenOver p records t :=
    hs.run (List.forall_mem_cons.2 ⟨by nofun, hafter⟩)
  have hsetup : t.setup = setup := (later_run s _).setup.trans (later_run _ before).setup
  obtain ⟨c, hc, hgeneration, hquery⟩ := exists_begun_call hs.consistent.numbered hq after
  rw [← hgeneration, ← hquery]
  refine ⟨fun r hr hcurrent => ?_, ht.exists_answer hc⟩
  obtain ⟨hrq, hwarnings, hanswer⟩ := ht.isAnswer hc (hquery ▸ hq) hr hcurrent
  rw [hsetup] at hanswer
  refine ⟨hrq, hwarnings, fun results => ⟨fun h => h.unique hanswer, ?_⟩⟩
  rintro rfl
  exact hanswer

/-- Two records of one key. -/
def printfRecords : List Record :=
  [.ofText "" "Printf" [⟨"io.html#a", "std"⟩], .ofText "printf" "print f" [⟨"c.html#b", ""⟩]]

def printfEntry : Entry := ⟨"printf", "Printf", [⟨"io.html#a", "std"⟩, ⟨"c.html#b", ""⟩]⟩

/-- An empty disk, and the same after the build was written into a directory. -/
def emptyWorld : World := ⟨⟨⟨[]⟩, [], []⟩, []⟩

def printfWorld : World :=
  (outcome (Store.write (Build.lenient .alpha printfRecords) (.ofString "index")) emptyWorld).2

theorem written_printf :
    Store.Written (Build.lenient .alpha printfRecords) (.ofString "index") emptyWorld
      printfWorld where
  rooted := ⟨File.standing_nil _, nofun⟩
  fresh _ h := nomatch h
  success := by
    have hok : (outcome (Store.write (Build.lenient .alpha printfRecords) (.ofString "index"))
        emptyWorld).1.isOk = true := by decide +kernel
    unfold Gives printfWorld
    revert hok
    generalize outcome (Store.write (Build.lenient .alpha printfRecords) (.ofString "index"))
      emptyWorld = result
    obtain ⟨_ | paths, w⟩ := result
    · nofun
    · exact fun _ => ⟨paths, rfl⟩
  short := by decide +kernel
  numbers := ⟨nofun, by unfold Manifest.Short; decide +kernel⟩

theorem merges_printf {e : Entry} : Build.Merges printfRecords e ↔ e = printfEntry := by
  have hvalid : ∀ r ∈ printfRecords, r.valid?.map (·.key) = some "printf" := by decide +kernel
  have hkey : ∀ k, ∀ r ∈ printfRecords, Build.hasKey k r = ("printf" == k) := by
    intro k r hr
    obtain ⟨d, hd, hk⟩ := Option.map_eq_some_iff.1 (hvalid r hr)
    rw [Build.hasKey, hd, Option.any_some, hk]
  have hall : printfRecords.filter (Build.hasKey "printf") = printfRecords :=
    List.filter_eq_self.2 fun r hr => hkey "printf" r hr
  constructor
  · intro h
    obtain ⟨r, hr, _⟩ := h.exists_gives
    obtain ⟨hr, hk⟩ := List.mem_filter.1 hr
    rw [hkey _ r hr, beq_iff_eq] at hk
    obtain ⟨key, name, occurrences⟩ := e
    obtain rfl : "printf" = key := hk
    obtain ⟨hname, hplaces⟩ := h
    rw [hall] at hname hplaces
    obtain rfl : "Printf" = name := by injection hname with hname; injection hname
    obtain rfl : occurrences = printfEntry.occurrences :=
      Build.ofOccurrence_injective.list_map hplaces
    rfl
  · rintro rfl
    exact ⟨by rw [printfEntry, hall]; rfl, by rw [printfEntry, hall]; rfl⟩

/-- The answer to `Pri n`, read from the directory after a query without key characters. -/
theorem search_correct_printf : ∃ (b : Build) (source : Source) (actions : List Action)
    (r : Response),
    Build.run true .alpha printfRecords = .ok b ∧
      Store.Written b (.ofString "index") emptyWorld printfWorld ∧
      Gives (Store.openIndex (.ofString "index")) printfWorld source printfWorld ∧
      ((start ⟨source, .start, some 0, 1, false⟩).run
        (.begin " " :: .begin "Pri n" :: actions)).answered 2 = some r ∧
      r.superseded = false ∧ r.query = "prin" ∧ r.warnings = [] ∧
      r.results = [⟨"printf", "Printf", "io.html#a", "std", "p"⟩,
        ⟨"printf", "Printf", "c.html#b", "", "p"⟩] := by
  have hvalid : ∀ r ∈ printfRecords, r.valid?.isSome := by decide +kernel
  obtain ⟨b, hb, hopen, hsearch⟩ := search_correct true .alpha printfRecords fun _ => hvalid
  have hquery : Key.normalize "Pri n" = "prin" := by decide +kernel
  have hwritten : Store.Written b (.ofString "index") emptyWorld printfWorld := by
    rw [Build.run_eq_lenient fun _ => hvalid] at hb
    exact Except.ok.inj hb ▸ written_printf
  obtain ⟨source, hsource⟩ := hopen _ _ _ hwritten
  have hserved : Served b source := .directory hwritten hsource
  have hsession := fun after => hsearch ⟨source, .start, some 0, 1, false⟩ hserved [.begin " "]
    after "Pri n" (by simp)
  simp only [hquery] at hsession
  obtain ⟨_, more, hmore, r, hr, hnewest⟩ := hsession [] nofun (by decide)
  have hcurrent := hnewest rfl
  have hclose : ∀ a ∈ more, a ≠ .close := fun a ha => (hmore a ha).ne_close
  obtain ⟨hq, hwarnings, hiff⟩ := (hsession more hclose (by decide)).1 r hr hcurrent
  refine ⟨b, source, more, r, hb, hwritten, hsource, hr, hcurrent, hq, hwarnings,
    ((hiff _).1 ⟨[printfEntry], fun e => ?_, List.pairwise_singleton _ _, ?_⟩).symm⟩
  · have hmatches : Match.Matches .start "prin" printfEntry.key := by
      show "prin".toList <+: "printf".toList
      decide
    rw [merges_printf, List.mem_singleton]
    exact ⟨fun h => ⟨h, h ▸ hmatches⟩, And.left⟩
  · decide +kernel

end SymbolIndex
