import SymbolIndex.Proofs.Session.Loads

/-!
# The life of a shard

A shard is asked for, loaded once, and ready or failed from then on. `Account` ties the stage of
its load to the history: what was announced of it, whether it was asked for before the session was
closed, and how often it was fetched.
-/

namespace SymbolIndex.Session

open History

variable {s : Session} {setup : Setup} {actions : List Action} {a : Action} {id : String}
  {stage stage' : Stage}

/-! ### States -/

/-- The load states that may follow each other. -/
inductive LoadState.Next : LoadState → LoadState → Prop where
  | begin : Next .unloaded .loading
  | succeed : Next .loading .ready
  | fail : Next .loading .failed

theorem LoadStep.state {source : Source} {closed : Bool}
    (h : LoadStep source closed id stage stage') :
    stage'.state = stage.state ∨ LoadState.Next stage.state stage'.state := by
  cases h with
  | request => exact .inr .begin
  | refuse => exact .inr .fail
  | settle =>
    cases load source id with
    | ok shard => exact .inr .succeed
    | error reason => exact .inr .fail
  | announceOutcome o | tellOutcome o => cases o <;> exact .inl rfl
  | _ => exact .inl rfl

theorem state_step (s : Session) (a : Action) (id : String) :
    (s.step a).state id = s.state id ∨ LoadState.Next (s.state id) ((s.step a).state id) := by
  unfold Session.state
  rcases stage_step s a id with hsame | hstep
  · exact .inl (congrArg Stage.state hsame)
  · exact hstep.state

/-! ### What happened to a shard -/

/-- All events that were put into the queue, whether they were taken out or not. -/
def emitted (setup : Setup) (actions : List Action) : List Event :=
  log step taken (start setup) actions ++ ((start setup).run actions).queue

theorem emitted_concat (setup : Setup) (actions : List Action) (a : Action) :
    emitted setup (actions ++ [a]) =
      emitted setup actions ++ announces .queue ((start setup).run actions) a := by
  have hlog : ∀ actions,
      emitted setup actions = log step (announces .queue) (start setup) actions :=
    log_append_pile taken_append_queue (start setup)
  rw [hlog, hlog, log_concat]
  rfl

/-- A call asked for a shard. -/
def AskedBy (setup : Setup) (generation : Nat) (id : String) : List Action → Prop :=
  Happens fun before a => a = .advanceCall generation ∧ Asks ((start setup).run before) id a

/-- A shard was asked for before the session was closed. -/
def AskedInTime (setup : Setup) (id : String) : List Action → Prop :=
  Happens fun before a => .close ∉ before ∧ Asks ((start setup).run before) id a

/-- The session was closed while the request for a shard was under way: it had not yet been
announced to everyone and handed to a worker. -/
def CutOff (setup : Setup) (id : String) : List Action → Prop :=
  Happens fun before a => a = .close ∧ ∃ told, ((start setup).run before).stage id = .requested told

/-- A shard was asked for in time to be fetched. -/
def Due (setup : Setup) (id : String) (actions : List Action) : Prop :=
  AskedInTime setup id actions ∧ ¬ CutOff setup id actions

theorem closed_run (setup : Setup) (actions : List Action) :
    ((start setup).run actions).closed = true ↔ .close ∈ actions := by
  refine history_induction (s := start setup)
    (I := fun actions t => t.closed = true ↔ .close ∈ actions) (by simp [start])
    (fun actions a h => ?_) actions
  rw [closed_step, h, List.mem_append, List.mem_singleton, eq_comm]

theorem askedInTime_concat :
    AskedInTime setup id (actions ++ [a]) ↔ AskedInTime setup id actions ∨
      ((start setup).run actions).closed = false ∧ Asks ((start setup).run actions) id a := by
  rw [AskedInTime, happens_concat, ← closed_run setup, Bool.not_eq_true]

theorem cutOff_concat :
    CutOff setup id (actions ++ [a]) ↔ CutOff setup id actions ∨
      a = .close ∧ ∃ told, ((start setup).run actions).stage id = .requested told :=
  happens_concat

/-- Once a shard was asked for, it depends on nothing that comes later whether it is due, but on a
close while the request is under way. -/
theorem due_concat (h : Due setup id actions ∨ ((start setup).run actions).closed = true)
    (hclose : a = .close → ∀ told, ((start setup).run actions).stage id ≠ .requested told) :
    Due setup id (actions ++ [a]) ↔ Due setup id actions := by
  have hcut : CutOff setup id (actions ++ [a]) ↔ CutOff setup id actions := by
    rw [cutOff_concat, or_iff_left]
    rintro ⟨ha, told, hstage⟩
    exact hclose ha told hstage
  rw [Due, Due, hcut]
  rcases h with ⟨hasked, _⟩ | hclosed
  · exact and_congr_left fun _ => ⟨fun _ => hasked, fun _ => hasked.concat⟩
  · rw [askedInTime_concat, hclosed]
    simp

/-- What the stage of a shard says of its past. -/
def Past (setup : Setup) (id : String) (actions : List Action) (s : Session) : Stage → Prop
  | .unloaded =>
    ¬ AskedInTime setup id actions ∧ ¬ CutOff setup id actions ∧ s.fetched.count id = 0
  | .requested _ => (Due setup id actions ↔ s.closed = false) ∧ s.fetched.count id = 0
  | .queued => Due setup id actions ∧ s.fetched.count id = 0
  | .fetching => Due setup id actions ∧ s.fetched.count id = 1
  | .settled o _ =>
    Due setup id actions ∧ s.fetched.count id = 1 ∧ o = load setup.source id ∨
      ¬ Due setup id actions ∧ s.fetched.count id = 0 ∧ s.closed = true ∧
        o = .error shutdownReason

theorem Past.due_or_closed (h : Past setup id actions s stage) (hstage : stage ≠ .unloaded) :
    Due setup id actions ∨ s.closed = true := by
  cases stage with
  | unloaded => exact absurd rfl hstage
  | requested told =>
    cases hclosed : s.closed with
    | true => exact .inr rfl
    | false => exact .inl (h.1.2 hclosed)
  | queued => exact .inl h.1
  | fetching => exact .inl h.1
  | settled o told =>
    rcases h with ⟨hdue, _⟩ | ⟨_, _, hclosed, _⟩
    · exact .inl hdue
    · exact .inr hclosed

/-- A step of the load takes the past on. -/
theorem Past.advance {t : Session} {more : List Action} (h : Past setup id actions s stage)
    (hstep : LoadStep setup.source s.closed id stage stage') (hstage : stage ≠ .unloaded)
    (hdue : Due setup id more ↔ Due setup id actions) (hclosed : t.closed = s.closed)
    (hfetched : t.fetched = s.fetched ++ stage.fetches id) : Past setup id more t stage' := by
  have hcount := congrArg (List.count id) hfetched
  rw [List.count_append] at hcount
  cases hstep with
  | request => exact absurd rfl hstage
  | announce | tell => exact ⟨by rw [hdue, hclosed, h.1], hcount.trans h.2⟩
  | refuse hc =>
    refine .inr ⟨?_, hcount.trans h.2, hclosed.trans hc, rfl⟩
    rw [hdue, h.1, hc]
    nofun
  | submit hc => exact ⟨hdue.2 (h.1.2 hc), hcount.trans h.2⟩
  | fetch =>
    refine ⟨hdue.2 h.1, ?_⟩
    rw [hcount, h.2, Stage.fetches, List.count_singleton_self]
  | settle => exact .inl ⟨hdue.2 h.1, hcount.trans h.2, rfl⟩
  | announceOutcome | tellOutcome =>
    rw [Past, hdue, hclosed, hcount]
    exact h

/-- While the load stays where it is, so does its past. -/
theorem Past.keep {t : Session} {more : List Action} (h : Past setup id actions s stage)
    (hstage : stage ≠ .unloaded) (hdue : Due setup id more ↔ Due setup id actions)
    (hcount : t.fetched.count id = s.fetched.count id)
    (hclosed : s.closed = true → t.closed = true)
    (hopen : ∀ told, stage = .requested told → t.closed = s.closed) :
    Past setup id more t stage := by
  cases stage with
  | unloaded => exact absurd rfl hstage
  | requested told => exact ⟨by rw [hdue, hopen told rfl, h.1], hcount.trans h.2⟩
  | queued => exact ⟨hdue.2 h.1, hcount.trans h.2⟩
  | fetching => exact ⟨hdue.2 h.1, hcount.trans h.2⟩
  | settled o told =>
    rw [Past, hdue, hcount]
    exact h.imp_right fun ⟨hnot, hnone, hc, ho⟩ => ⟨hnot, hnone, hclosed hc, ho⟩

theorem Past.step
    (h : Past setup id actions ((start setup).run actions) (((start setup).run actions).stage id))
    (heffect : LoadEffect ((start setup).run actions) a id) :
    Past setup id (actions ++ [a]) (((start setup).run actions).step a)
      ((((start setup).run actions).step a).stage id) := by
  cases heffect with
  | ask ha hunloaded hnext =>
    rw [hunloaded] at h
    rw [hnext]
    obtain ⟨hasked, hcut, hcount⟩ := h
    have hcut' : ¬ CutOff setup id (actions ++ [a]) := by
      rw [cutOff_concat, or_iff_right hcut]
      exact fun h => ha.ne_close h.1
    refine ⟨?_, ?_⟩
    · rw [Due, and_iff_left hcut', askedInTime_concat, or_iff_right hasked, and_iff_left ha,
        closed_step_of_ne ha.ne_close]
    · rw [count_fetched_of_ne (ha.ne_advanceLoad id), hcount]
  | advance ha hrequested hnext hfetched =>
    have hne : a ≠ .close := by
      rw [ha]
      nofun
    rw [setup_run] at hnext
    exact h.advance hnext hrequested
      (due_concat (h.due_or_closed hrequested) fun heq => absurd heq hne)
      (closed_step_of_ne hne) hfetched
  | stay hask hnext hidle =>
    have hcount : (((start setup).run actions).step a).fetched.count id =
        ((start setup).run actions).fetched.count id := by
      by_cases ha : a = .advanceLoad id
      · rw [(hidle ha).1]
      · exact count_fetched_of_ne ha
    have hclosed := closed_step ((start setup).run actions) a
    rw [hnext]
    by_cases hunloaded : ((start setup).run actions).stage id = .unloaded
    · rw [hunloaded] at h ⊢
      obtain ⟨hasked, hcut, hnone⟩ := h
      refine ⟨?_, ?_, hcount.trans hnone⟩
      · rw [askedInTime_concat, or_iff_right hasked]
        exact fun hasks => hask hasks.2 hunloaded
      · rw [cutOff_concat, or_iff_right hcut, hunloaded]
        nofun
    by_cases hcut : a = .close ∧ ∃ told, ((start setup).run actions).stage id = .requested told
    · have hcut' : CutOff setup id (actions ++ [a]) := cutOff_concat.2 (.inr hcut)
      obtain ⟨ha, told, hst⟩ := hcut
      rw [hst] at h ⊢
      refine ⟨?_, hcount.trans h.2⟩
      rw [Due, hclosed.2 (.inr ha)]
      exact ⟨fun hdue => absurd hcut' hdue.2, nofun⟩
    · have hgoes : a = .close → ∀ told, ((start setup).run actions).stage id ≠ .requested told :=
        fun ha told hst => hcut ⟨ha, told, hst⟩
      refine h.keep hunloaded (due_concat (h.due_or_closed hunloaded) hgoes) hcount
        (fun hc => hclosed.2 (.inl hc)) fun told hst => closed_step_of_ne fun ha => ?_
      exact hgoes ha told hst

/-! ### Calls -/

/-- A call asks for a shard, or has as many to ask for as before. -/
theorem CallStep.asking {c : Call} {phase : Phase} (h : CallStep s c phase) :
    (∃ i, c.phase = .requesting (i :: phase.asking)) ∨ phase.asking = c.phase.asking := by
  cases h with
  | request i left h => exact .inl ⟨i, h⟩
  | _ =>
    right
    simp_all [Phase.asking]

/-- A call asks for the targets of its query one by one. -/
structure AsksAll (setup : Setup) (actions : List Action) (s : Session) (c : Call) : Prop where
  left : AsksTargets s c
  asked : c.query ≠ "" → ∀ id ∈ s.targets c.query,
    id ∈ c.phase.asking ∨ AskedBy setup c.generation id actions

theorem asksAll_run (setup : Setup) (actions : List Action) :
    ∀ c ∈ ((start setup).run actions).calls,
      AsksAll setup actions ((start setup).run actions) c := by
  refine history_induction (s := start setup)
    (I := fun actions t => ∀ c ∈ t.calls, AsksAll setup actions t c) nofun (fun actions a h => ?_)
    actions
  have hn := numbered_run setup actions
  generalize hs : (start setup).run actions = s at h hn
  have htargets := (later_step s a).targets
  refine forall_calls_step hn h ?_ ⟨nofun, fun hq => absurd rfl hq⟩ ?_ ?_
  · rintro c _ ⟨hleft, hasked⟩
    refine ⟨?_, ?_⟩
    · rw [AsksTargets, htargets]
      exact hleft
    · rw [htargets]
      exact fun hq id hid => (hasked hq id hid).imp_right fun h => h.concat
  · intro query hq
    refine ⟨?_, ?_⟩
    · rw [AsksTargets, htargets]
      exact fun id hid => ⟨hq, hid⟩
    · rw [htargets]
      exact fun _ id hid => .inl hid
  · rintro c hc phase ha hstep ⟨hleft, hasked⟩
    rw [AsksTargets] at hleft
    rcases hstep.asking with ⟨i, hphase⟩ | hsame
    · rw [hphase] at hleft hasked
      obtain ⟨hq, hi⟩ := hleft i List.mem_cons_self
      refine ⟨?_, ?_⟩
      · rw [AsksTargets, htargets]
        exact fun id hid => hleft id (List.mem_cons_of_mem _ hid)
      · rw [htargets]
        intro _ id hid
        rcases hasked hq id hid with hmem | hdone
        · rcases List.mem_cons.1 hmem with rfl | hmem
          · right
            refine happens_concat.2 (.inr ⟨ha, ?_⟩)
            rw [hs, ha]
            exact ⟨c, hc, rfl, hq, hid, _, hphase⟩
          · exact .inl hmem
        · exact .inr hdone.concat
    · rw [← hsame] at hleft hasked
      refine ⟨?_, ?_⟩
      · rw [AsksTargets, htargets]
        exact hleft
      · rw [htargets]
        exact fun hq id hid => (hasked hq id hid).imp_right fun h => h.concat

/-! ### Accounts -/

/-- The stage of a shard agrees with the history. -/
structure Account (setup : Setup) (actions : List Action) (s : Session) (id : String) : Prop where
  past : Past setup id actions s (s.stage id)
  emitted : eventsOf id (emitted setup actions) = (s.stage id).announced .queue id
  heard : eventsOf id s.heard =
    if setup.hasListener then (s.stage id).announced .listener id else []

theorem account_start (setup : Setup) (id : String) : Account setup [] (start setup) id where
  past := by
    rw [stage_start]
    exact ⟨not_happens_nil, not_happens_nil, rfl⟩
  emitted := by
    rw [stage_start]
    rfl
  heard := by
    rw [stage_start]
    split <;> rfl

theorem loadEffect_run (setup : Setup) (actions : List Action) (a : Action) (id : String) :
    LoadEffect ((start setup).run actions) a id :=
  loadEffect (sound_run setup actions) (numbered_run setup actions)
    (fun c hc => (asksAll_run setup actions c hc).left) a id

theorem account_run (setup : Setup) (actions : List Action) (id : String) :
    Account setup actions ((start setup).run actions) id := by
  refine history_induction (I := fun actions t => Account setup actions t id)
    (account_start setup id) (fun actions a h => ?_) actions
  have heffect := loadEffect_run setup actions a id
  refine ⟨h.past.step heffect, ?_, ?_⟩
  · rw [emitted_concat, heffect.announced, ← h.emitted]
    exact List.filter_append _ _
  · rw [heard_step, heffect.announced, setup_run]
    have hheard := h.heard
    rw [eventsOf] at hheard ⊢
    rw [List.filter_append, hheard]
    split <;> rfl

/-! ### What a stage says -/

theorem Past.count_le (h : Past setup id actions s stage) : s.fetched.count id ≤ 1 := by
  cases stage with
  | unloaded => rw [h.2.2]; exact Nat.zero_le 1
  | requested told => rw [h.2]; exact Nat.zero_le 1
  | queued => rw [h.2]; exact Nat.zero_le 1
  | fetching => exact Nat.le_of_eq h.2
  | settled o told =>
    rcases h with ⟨_, hcount, _⟩ | ⟨_, hcount, _⟩
    · exact Nat.le_of_eq hcount
    · rw [hcount]; exact Nat.zero_le 1

theorem Past.settled_iff {o : Outcome} {told : Told}
    (h : Past setup id actions s (.settled o told)) :
    (id ∈ s.fetched ↔ Due setup id actions) ∧
      (id ∈ s.fetched → o = load setup.source id) ∧
      (id ∉ s.fetched → o = .error shutdownReason) := by
  rcases h with ⟨hdue, hcount, ho⟩ | ⟨hnot, hcount, _, ho⟩
  · have hmem : id ∈ s.fetched := List.count_pos_iff.1 (hcount ▸ Nat.one_pos)
    exact ⟨iff_of_true hmem hdue, fun _ => ho, fun h => absurd hmem h⟩
  · have hmem : id ∉ s.fetched := List.count_eq_zero.1 hcount
    exact ⟨iff_of_false hmem hnot, fun h => absurd h hmem, fun _ => ho⟩

/-- A shard whose load is not under way was fetched if it was asked for in time. -/
theorem Past.mem_fetched_iff (h : Past setup id actions s stage) (hstate : stage.state ≠ .loading) :
    id ∈ s.fetched ↔ Due setup id actions := by
  cases stage with
  | unloaded => exact iff_of_false (List.count_eq_zero.1 h.2.2) fun hdue => h.1 hdue.1
  | settled o told => exact h.settled_iff.1
  | _ => exact absurd rfl hstate

theorem announced_prefix (stage : Stage) (id : String) :
    ∃ o : Outcome, stage.announced .queue id <+: [⟨id, .loading, none⟩, o.event id] := by
  cases stage with
  | settled o told =>
    refine ⟨o, ?_⟩
    rw [Stage.announced]
    split
    · exact List.dropLast_prefix _
    · exact List.prefix_refl _
  | unloaded => exact ⟨.error "", List.nil_prefix⟩
  | requested told =>
    refine ⟨.error "", ?_⟩
    cases told with
    | nobody => exact List.nil_prefix
    | _ => exact ⟨_, rfl⟩
  | _ => exact ⟨.error "", _, rfl⟩

theorem announced_listener_prefix (stage : Stage) (id : String) :
    stage.announced .listener id <+: stage.announced .queue id := by
  cases h : stage.told with
  | queue =>
    rw [Stage.announced, Stage.announced, h]
    exact List.dropLast_prefix _
  | _ =>
    rw [Stage.announced, Stage.announced, h]
    exact List.prefix_refl _

theorem announced_of_told {who : Audience} (h : stage.told = .everyone) :
    stage.announced who id = stage.events id := by
  rw [Stage.announced, h]
  cases who <;> rfl

theorem state_of_getLast?_events (stage : Stage) (id : String) :
    ((stage.events id).map (·.state)).getLast?.getD .unloaded = stage.state := by
  cases stage with
  | settled o told => cases o <;> rfl
  | _ => rfl

/-- A load that has ended was fetched once, or refused because the session was closed. -/
theorem settled_run {o : Outcome} {told : Told}
    (h : ((start setup).run actions).stage id = .settled o told) :
    ((start setup).run actions).fetched.count id = 1 ∧ o = load setup.source id ∨
      .close ∈ actions ∧ id ∉ ((start setup).run actions).fetched ∧ o = .error shutdownReason := by
  have hpast := (account_run setup actions id).past
  rw [h] at hpast
  rcases hpast with ⟨_, hcount, ho⟩ | ⟨_, hcount, hclosed, ho⟩
  · exact .inl ⟨hcount, ho⟩
  · exact .inr ⟨(closed_run setup actions).1 hclosed, List.count_eq_zero.1 hcount, ho⟩

/-! ### What a session guarantees -/

/-- Each shard is fetched at most once. A call asks for every target of its query. The state of a
shard goes from unloaded to loading and from there to ready or failed. What the queue gets of it,
taken out or not, is a beginning of that course, and the listener gets the same after it; unless a
change of state is yet to be announced, both have all of it. Unless it is being loaded, it was
fetched if and only if it was asked for before the session was closed, by a request that was not
cut off; its outcome is then that of its source, and a refusal otherwise. -/
theorem shard_life_cycle (setup : Setup) (actions : List Action) :
    let s := (start setup).run actions
    s.fetched.Nodup ∧
    (∀ c ∈ s.calls, c.query ≠ "" → ∀ id ∈ s.targets c.query,
      id ∈ c.phase.asking ∨ AskedBy setup c.generation id actions) ∧
    ∀ id,
      let put := eventsOf id (emitted setup actions)
      let heard := eventsOf id s.heard
      (∀ a, (s.step a).state id = s.state id ∨ (s.state id).Next ((s.step a).state id)) ∧
      (∃ o : Outcome, put <+: [⟨id, .loading, none⟩, o.event id]) ∧ heard <+: put ∧
      ((s.stage id).told = .everyone →
        (put.map (·.state)).getLast?.getD .unloaded = s.state id ∧
          (setup.hasListener = true → heard = put)) ∧
      (s.state id ≠ .loading →
        (id ∈ s.fetched ↔ AskedInTime setup id actions ∧ ¬ CutOff setup id actions)) ∧
      ∀ o told, s.stage id = .settled o told →
        (id ∈ s.fetched → o = load setup.source id) ∧
          (id ∉ s.fetched → o = .error shutdownReason) := by
  intro s
  refine ⟨?_, fun c hc => (asksAll_run setup actions c hc).asked, fun id => ?_⟩
  · rw [List.nodup_iff_count_le_one]
    exact fun id => (account_run setup actions id).past.count_le
  have h : Account setup actions s id := account_run setup actions id
  refine ⟨fun a => state_step s a id, ?_, ?_, fun htold => ⟨?_, fun hlistener => ?_⟩,
    h.past.mem_fetched_iff, fun o told hstage => ?_⟩
  · rw [h.emitted]
    exact announced_prefix _ id
  · rw [h.emitted, h.heard]
    split
    · exact announced_listener_prefix _ id
    · exact List.nil_prefix
  · rw [h.emitted, announced_of_told htold]
    exact state_of_getLast?_events _ id
  · rw [h.emitted, h.heard, if_pos hlistener, announced_of_told htold, announced_of_told htold]
  · have hpast := h.past
    rw [hstage] at hpast
    exact hpast.settled_iff.2

end SymbolIndex.Session
