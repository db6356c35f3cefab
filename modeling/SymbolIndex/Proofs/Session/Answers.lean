import SymbolIndex.Proofs.Session.Calls
import SymbolIndex.Proofs.Session.Candidates

/-!
# What calls answer

`Consistent` is the invariant of sessions: what is remembered of the last completed call is what a
scan of its shards finds (`Faithful`), and what a call relies on in its phase holds (`PhaseOk`). So
a call that is not overtaken answers as a scan of its targets does (`Session.answer`), whether it
scanned them or went on from the matches of an earlier call.
-/

namespace SymbolIndex.Session

variable {s t : Session} {c : Call} {phase : Phase} {snapshot : Snapshot} {id : String}

/-! ### The invariant -/

/-- What a scan of the targets of a call matches. -/
def scan (s : Session) (c : Call) : Snapshot :=
  ⟨c.query, c.targets, Match.filter s.setup.mode c.query (s.candidates c.targets)⟩

/-- The answer of a call that scans its targets. -/
def answer (s : Session) (c : Call) : Response :=
  s.respond c (s.scan c) (s.warnings c.targets)

/-- A remembered call: its shards are resolved, and it matched what a scan of them matches. -/
structure Faithful (s : Session) (snapshot : Snapshot) : Prop where
  query : snapshot.query ≠ ""
  nodup : snapshot.shardIds.Nodup
  known : snapshot.shardIds ⊆ s.manifest.shardIds
  resolved : Resolved s snapshot.shardIds
  matched : snapshot.matched =
    Match.filter s.setup.mode snapshot.query (s.candidates snapshot.shardIds)

/-- What a call relies on in its phase. -/
def PhaseOk (s : Session) (c : Call) : Phase → Prop
  | .requesting left =>
    ∃ asked, c.targets = asked ++ left ∧ ∀ id ∈ asked, s.stage id ≠ .unloaded
  | .waiting => ∀ id ∈ c.targets, s.stage id ≠ .unloaded
  | .current => Resolved s c.targets
  | .reading last warnings =>
    Resolved s c.targets ∧ warnings = s.warnings c.targets ∧ ∀ l ∈ last, Faithful s l
  | .matched snapshot warnings =>
    Resolved s c.targets ∧ warnings = s.warnings c.targets ∧ Faithful s snapshot ∧
      snapshot.query = c.query ∧ snapshot.matched = (s.scan c).matched
  | .finished r =>
    r = .outdated c.query c.generation ∨ Resolved s c.targets ∧ r = s.answer c

/-- A call without key characters is answered at once; any other has the targets of its query. -/
def CallOk (s : Session) (c : Call) : Prop :=
  c.query = "" ∧ c.phase = .finished (.blank c.generation) ∨
    c.query ≠ "" ∧ c.targets = s.targets c.query ∧ PhaseOk s c c.phase

structure Consistent (s : Session) : Prop where
  sound : Sound s
  numbered : Numbered s
  last : ∀ l ∈ s.last, Faithful s l
  calls : ∀ c ∈ s.calls, CallOk s c

theorem consistent_start (setup : Setup) : Consistent (start setup) where
  sound := sound_start setup
  numbered := numbered_start setup
  last _ h := nomatch h
  calls _ h := nomatch h

/-! ### What later steps keep -/

theorem Later.scan (h : Later s t) (hr : Resolved s c.targets) : t.scan c = s.scan c := by
  rw [Session.scan, Session.scan, h.setup, h.candidates hr]

theorem Later.answer (h : Later s t) (hr : Resolved s c.targets) : t.answer c = s.answer c := by
  rw [Session.answer, Session.answer, respond, respond, h.setup, h.scan hr, h.warnings hr]

theorem Faithful.later (hf : Faithful s snapshot) (h : Later s t) : Faithful t snapshot where
  query := hf.query
  nodup := hf.nodup
  known := by rw [manifest, h.setup]; exact hf.known
  resolved := h.resolved_ids hf.resolved
  matched := by rw [h.setup, h.candidates hf.resolved]; exact hf.matched

theorem PhaseOk.later (hp : PhaseOk s c phase) (h : Later s t) : PhaseOk t c phase := by
  cases phase with
  | requesting left =>
    obtain ⟨asked, htargets, hasked⟩ := hp
    exact ⟨asked, htargets, fun id hid => h.requested (hasked id hid)⟩
  | waiting => exact fun id hid => h.requested (hp id hid)
  | current => exact h.resolved_ids hp
  | reading last warnings =>
    obtain ⟨hr, hw, hl⟩ := hp
    exact ⟨h.resolved_ids hr, hw.trans (h.warnings hr).symm, fun l hmem => (hl l hmem).later h⟩
  | matched snapshot warnings =>
    obtain ⟨hr, hw, hf, hq, hm⟩ := hp
    exact ⟨h.resolved_ids hr, hw.trans (h.warnings hr).symm, hf.later h, hq,
      by rw [h.scan hr]; exact hm⟩
  | finished r =>
    rcases hp with hout | ⟨hr, hans⟩
    · exact .inl hout
    · exact .inr ⟨h.resolved_ids hr, hans.trans (h.answer hr).symm⟩

theorem CallOk.later (hc : CallOk s c) (h : Later s t) : CallOk t c := by
  rcases hc with hblank | ⟨hq, htargets, hphase⟩
  · exact .inl hblank
  · exact .inr ⟨hq, htargets.trans (h.targets c.query).symm, hphase.later h⟩

/-! ### Matching -/

theorem Sound.faithful_scan (hs : Sound s) (hnodup : (s.targets c.query).Nodup) (hq : c.query ≠ "")
    (htargets : c.targets = s.targets c.query) (hr : Resolved s c.targets) :
    Faithful s (s.scan c) where
  query := hq
  nodup := by rw [Session.scan, htargets]; exact hnodup
  known id hid := by
    rw [Session.scan, htargets] at hid
    exact hs.mem_of_mem_targets hid
  resolved := hr
  matched := rfl

/-- A call matches what a scan of some shards does, the targets of its query among them. -/
theorem Sound.faithful_matchesFor (hs : Sound s) (hnodup : (s.targets c.query).Nodup)
    (hq : c.query ≠ "") (htargets : c.targets = s.targets c.query) (hr : Resolved s c.targets)
    {last : Option Snapshot} (hl : ∀ l ∈ last, Faithful s l) :
    Faithful s (s.matchesFor last c) ∧ (s.matchesFor last c).query = c.query ∧
      c.targets ⊆ (s.matchesFor last c).shardIds := by
  have hscan := hs.faithful_scan hnodup hq htargets hr
  unfold matchesFor
  cases last with
  | none => exact ⟨hscan, rfl, fun _ hid => hid⟩
  | some l =>
    obtain ⟨hlq, hnodup, hknown, hresolved, hmatched⟩ := hl l rfl
    simp only
    split
    · rename_i hfast
      have hfilter : Match.filter s.setup.mode c.query l.matched =
          Match.filter s.setup.mode c.query (s.candidates l.shardIds) := by
        rw [hmatched, Match.filter_filter hlq hq (List.isPrefixOf_iff_prefix.1 hfast.1)]
      exact ⟨⟨hq, hnodup, hknown, hresolved, hfilter⟩, rfl, hfast.2⟩
    · exact ⟨hscan, rfl, fun _ hid => hid⟩

/-- To go on from a remembered call is as good as to scan. -/
theorem Sound.matchesFor_spec (hs : Sound s) (hp : Placed s.setup)
    (hn : s.manifest.shardIds.Nodup) (hq : c.query ≠ "") (htargets : c.targets = s.targets c.query)
    (hr : Resolved s c.targets) {last : Option Snapshot} (hl : ∀ l ∈ last, Faithful s l) :
    Faithful s (s.matchesFor last c) ∧ (s.matchesFor last c).query = c.query ∧
      (s.matchesFor last c).matched = (s.scan c).matched := by
  obtain ⟨hf, hquery, hcovers⟩ :=
    hs.faithful_matchesFor (nodup_targets hn c.query) hq htargets hr hl
  refine ⟨hf, hquery, ?_⟩
  rw [htargets] at hcovers
  rw [hf.matched, hquery, Session.scan, htargets]
  exact hs.filter_candidates_targets hp hn hq hf.nodup hf.known hcovers

/-! ### Steps -/

theorem stage_request_ne (hk : s.isKnown id = true) : (s.request id).stage id ≠ .unloaded := by
  unfold request
  split
  · rw [stage_setStage_self hk]
    exact Stage.noConfusion
  · rename_i h
    exact h

theorem Consistent.phaseOk_of_callStep (h : Consistent s) (hp : Placed s.setup)
    (hn : s.manifest.shardIds.Nodup) (hq : c.query ≠ "") (htargets : c.targets = s.targets c.query)
    (hphase : PhaseOk s c c.phase) (hlater : Later s (s.advanceOf c)) (hstep : CallStep s c phase) :
    PhaseOk (s.advanceOf c) c phase := by
  cases hstep with
  | request id left hc =>
    rw [hc] at hphase
    obtain ⟨asked, hsplit, hasked⟩ := hphase
    refine ⟨asked ++ [id], by rw [hsplit, List.append_assoc]; rfl, fun i hi => ?_⟩
    rcases List.mem_append.1 hi with hi | hi
    · exact hlater.requested (hasked i hi)
    · obtain rfl := List.mem_singleton.1 hi
      have hmem : i ∈ s.targets c.query := by
        rw [← htargets, hsplit]
        simp
      have hk := h.sound.isKnown_iff.2 (h.sound.mem_of_mem_targets hmem)
      have hshards : (s.advanceOf c).shards = (s.request i).shards := by
        rw [advanceOf, hc]
        rfl
      rw [stage_congr hshards]
      exact stage_request_ne hk
  | await hc =>
    rw [hc] at hphase
    obtain ⟨asked, hsplit, hasked⟩ := hphase
    rw [List.append_nil] at hsplit
    exact fun id hid => hlater.requested (hasked id (hsplit ▸ hid))
  | wake hc hr hg =>
    show Resolved (s.advanceOf c) c.targets
    exact hlater.resolved_ids hr
  | overtaken hc hg => exact .inl rfl
  | read hc =>
    rw [hc] at hphase
    have hok : PhaseOk s c (.reading s.last (s.warnings c.targets)) := ⟨hphase, rfl, h.last⟩
    exact hok.later hlater
  | scan last warnings hc =>
    rw [hc] at hphase
    obtain ⟨hr, hw, hl⟩ := hphase
    have hok : PhaseOk s c (.matched (s.matchesFor last c) warnings) :=
      ⟨hr, hw, h.sound.matchesFor_spec hp hn hq htargets hr hl⟩
    exact hok.later hlater
  | commit snapshot warnings hc hg =>
    rw [hc] at hphase
    obtain ⟨hr, hw, _, _, hm⟩ := hphase
    have hans : s.respond c snapshot warnings = s.answer c := by
      rw [answer, respond, respond, hm, hw]
    have hok : PhaseOk s c (.finished (s.respond c snapshot warnings)) := .inr ⟨hr, hans⟩
    exact hok.later hlater
  | late snapshot warnings hc hg => exact .inl rfl

theorem Consistent.begin (h : Consistent s) (text : String) : Consistent (s.begin text) where
  sound := h.sound.step (.begin text)
  numbered := h.numbered.step (.begin text)
  last l hl := (h.last l hl).later (later_step s (.begin text))
  calls c hc := by
    rw [Session.begin, List.mem_append, List.mem_singleton] at hc
    rcases hc with hc | rfl
    · exact (h.calls c hc).later (later_step s (.begin text))
    · split
      · rename_i hblank
        exact .inl ⟨hblank, rfl⟩
      · rename_i hq
        exact .inr ⟨hq, rfl, [], rfl, fun _ hid => absurd hid List.not_mem_nil⟩

theorem Consistent.advance (h : Consistent s) (hp : Placed s.setup)
    (hn : s.manifest.shardIds.Nodup) (hc : s.call? c.generation = some c) :
    Consistent (s.advanceOf c) := by
  have heq : s.step (.advanceCall c.generation) = s.advanceOf c := by
    rw [step, advanceCall, hc]
  have hlater : Later s (s.advanceOf c) := heq ▸ later_step s _
  have hmem : c ∈ s.calls := (h.numbered.call?_eq_some.1 hc).1
  rcases advanceOf_cases s c with ⟨hsame, _⟩ | ⟨phase, hstep, hcalls, hlast⟩
  · rwa [hsame]
  have hphase : c.query ≠ "" ∧ c.targets = s.targets c.query ∧ PhaseOk s c c.phase := by
    rcases h.calls c hmem with ⟨_, hfin⟩ | hok
    · exact absurd hfin (hstep.not_finished _)
    · exact hok
  obtain ⟨hq, htargets, hok⟩ := hphase
  refine ⟨heq ▸ h.sound.step _, heq ▸ h.numbered.step _, fun l hl => ?_, fun d hd => ?_⟩
  · rcases hlast with hkeep | ⟨snapshot, warnings, hm, _, hcommit⟩
    · exact (h.last l (hkeep ▸ hl)).later hlater
    · rw [hcommit] at hl
      obtain rfl := Option.some.inj hl
      rw [hm] at hok
      exact hok.2.2.1.later hlater
  · rw [hcalls, h.numbered.mem_setPhase hmem] at hd
    rcases hd with rfl | ⟨hd, _⟩
    · refine .inr ⟨hq, htargets.trans (hlater.targets c.query).symm, ?_⟩
      exact h.phaseOk_of_callStep hp hn hq htargets hok hlater hstep
    · exact (h.calls d hd).later hlater

theorem Consistent.step (h : Consistent s) (hp : Placed s.setup)
    (hn : s.manifest.shardIds.Nodup) (a : Action) : Consistent (s.step a) := by
  rcases step_calls s a with hsame | ⟨text, _, hbegin⟩ | ⟨c, hc, _, hadvance⟩
  · have hlater := later_step s a
    exact ⟨h.sound.step a, h.numbered.step a, fun l hl => (h.last l (hsame.last ▸ hl)).later hlater,
      fun c hc => (h.calls c (hsame.calls ▸ hc)).later hlater⟩
  · rw [hbegin]
    exact h.begin text
  · rw [hadvance]
    exact h.advance hp hn hc

theorem Consistent.run (h : Consistent s) (hp : Placed s.setup)
    (hn : s.manifest.shardIds.Nodup) (actions : List Action) : Consistent (s.run actions) := by
  have hrun : Consistent (s.run actions) ∧ (s.run actions).setup = s.setup := by
    refine run_induction (P := fun t => Consistent t ∧ t.setup = s.setup) ⟨h, rfl⟩ ?_
    rintro t ⟨ht, hset⟩ a _
    refine ⟨ht.step ?_ ?_ a, (setup_step t a).trans hset⟩
    · rwa [hset]
    · rwa [manifest, hset]
  exact hrun.1

/-! ### Answers -/

/-- The answer of the call with a number, once it has one. -/
def answered (s : Session) (generation : Nat) : Option Response :=
  (s.call? generation).bind Call.response?

theorem finished_of_response? {r : Response} (h : c.response? = some r) :
    c.phase = .finished r := by
  unfold Call.response? at h
  split at h
  · rename_i hphase
    rw [hphase, Option.some.inj h]
  · cases h

theorem Numbered.answered_eq_some (hn : Numbered s) {generation : Nat} {r : Response} :
    s.answered generation = some r ↔
      ∃ c ∈ s.calls, c.generation = generation ∧ c.phase = .finished r := by
  rw [answered, Option.bind_eq_some_iff]
  constructor
  · rintro ⟨c, hc, hr⟩
    obtain ⟨hmem, hgen⟩ := hn.call?_eq_some.1 hc
    exact ⟨c, hmem, hgen, finished_of_response? hr⟩
  · rintro ⟨c, hc, hgen, hphase⟩
    exact ⟨c, hn.call?_eq_some.2 ⟨hc, hgen⟩, by rw [Call.response?, hphase]⟩

theorem Faithful.state {snapshot : Snapshot} (h : Faithful s snapshot) :
    ∀ id ∈ snapshot.shardIds, s.state id = .ready ∨ s.state id = .failed := by
  intro id hid
  obtain ⟨o, ho⟩ := exists_settled_of_resolved (h.resolved id hid)
  rw [Session.state, ho]
  cases o with
  | ok shard => exact .inl rfl
  | error reason => exact .inr rfl

theorem CallOk.query_eq (h : CallOk s c) {r : Response} (hphase : c.phase = .finished r) :
    r.query = c.query := by
  rcases h with ⟨hq, hblank⟩ | ⟨_, _, hok⟩
  · rw [hphase] at hblank
    obtain rfl := Phase.finished.inj hblank
    exact hq.symm
  · rw [hphase] at hok
    rcases hok with rfl | ⟨_, rfl⟩ <;> rfl

/-- A call that was not overtaken ranks all matches among the candidates of its targets, which are
resolved. -/
theorem Consistent.eq_of_finished (h : Consistent s) (hc : c ∈ s.calls) (hq : c.query ≠ "")
    {r : Response} (hphase : c.phase = .finished r) (hcurrent : r.superseded = false) :
    Resolved s (s.targets c.query) ∧
      r = ⟨c.query, Match.expand (Match.rank s.setup.mode c.query s.setup.limit
          (Match.filter s.setup.mode c.query (s.candidates (s.targets c.query)))),
        s.warnings (s.targets c.query), false, c.generation⟩ := by
  rcases h.calls c hc with ⟨hblank, _⟩ | ⟨_, htargets, hok⟩
  · exact absurd hblank hq
  · rw [hphase] at hok
    rcases hok with rfl | ⟨hr, rfl⟩
    · cases hcurrent
    · refine ⟨htargets ▸ hr, ?_⟩
      simp only [answer, respond, scan, htargets]

theorem Consistent.eq_of_answered (h : Consistent s) {generation : Nat} {r : Response}
    (hr : s.answered generation = some r) (hcurrent : r.superseded = false) (hq : r.query ≠ "") :
    r = ⟨r.query, Match.expand (Match.rank s.setup.mode r.query s.setup.limit
        (Match.filter s.setup.mode r.query (s.candidates (s.targets r.query)))),
      s.warnings (s.targets r.query), false, generation⟩ := by
  obtain ⟨c, hc, hresponse⟩ := Option.bind_eq_some_iff.1 hr
  obtain ⟨hmem, rfl⟩ := h.numbered.call?_eq_some.1 hc
  have hphase := finished_of_response? hresponse
  have hquery := (h.calls c hmem).query_eq hphase
  rw [hquery] at hq ⊢
  exact (h.eq_of_finished hmem hq hphase hcurrent).2

end SymbolIndex.Session
