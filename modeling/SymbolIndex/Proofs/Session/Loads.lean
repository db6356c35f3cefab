import SymbolIndex.Proofs.Session.History
import SymbolIndex.Proofs.Session.Progress

/-!
# What loads give out

A step of a session asks for a shard, takes its load a stage further, or leaves it as it is
(`LoadEffect`). The stage of a load says which changes of state were announced, to the event queue
and to the listener, and each step of the load announces what comes next
(`LoadEffect.announced`).
-/

namespace SymbolIndex.Session

variable {s t : Session} {a : Action} {id i : String} {source : Source} {closed : Bool}
  {stage stage' : Stage} {e : Event}

/-! ### Announcements -/

/-- Those who are told of each change of state, one after the other. -/
inductive Audience where
  | queue
  | listener

/-- Who knows of a change of state before this audience is told. -/
def Audience.after : Audience → Told
  | .queue => .nobody
  | .listener => .queue

/-- Who knows of the last change of state. -/
def Stage.told : Stage → Told
  | .requested told | .settled _ told => told
  | .unloaded | .queued | .fetching => .everyone

/-- The changes of state that led to a stage. -/
def Stage.events (id : String) : Stage → List Event
  | .unloaded => []
  | .requested _ | .queued | .fetching => [⟨id, .loading, none⟩]
  | .settled o _ => [⟨id, .loading, none⟩, o.event id]

/-- Those of them that an audience was told. -/
def Stage.announced (who : Audience) (id : String) (stage : Stage) : List Event :=
  if stage.told = .nobody ∨ stage.told = who.after then (stage.events id).dropLast
  else stage.events id

/-- What the next step of a load tells an audience. -/
def Stage.announces (who : Audience) (id : String) (stage : Stage) : List Event :=
  if stage.told = who.after then (stage.events id).getLast?.toList else []

/-- What an action tells an audience. -/
def announces (who : Audience) (s : Session) : Action → List Event
  | .advanceLoad id => (s.stage id).announces who id
  | _ => []

variable {who : Audience}

theorem shardId_of_mem_events (h : e ∈ stage.events id) : e.shardId = id := by
  have hevent : ∀ o : Outcome, (o.event id).shardId = id := by
    intro o
    cases o <;> rfl
  cases stage with
  | unloaded => cases h
  | settled o told =>
    rcases List.mem_pair.1 h with rfl | rfl
    · rfl
    · exact hevent o
  | _ =>
    obtain rfl := List.mem_singleton.1 h
    rfl

theorem shardId_of_mem_announces (h : e ∈ stage.announces who id) : e.shardId = id := by
  rw [Stage.announces] at h
  split at h
  · rw [Option.mem_toList] at h
    exact shardId_of_mem_events (List.mem_of_getLast? h)
  · cases h

theorem LoadStep.announced_eq (h : LoadStep source closed id stage stage') :
    stage'.announced who id = stage.announced who id ++ stage.announces who id := by
  cases h <;> cases who <;> rfl

theorem queue_advanceLoad (s : Session) (id : String) :
    (s.advanceLoad id).queue = s.queue ++ (s.stage id).announces .queue id := by
  have hnone : s.queue = s.queue ++ [] := (List.append_nil _).symm
  unfold advanceLoad tell
  cases s.stage id with
  | requested told | settled _ told =>
    cases told with
    | nobody => rfl
    | queue => simp only; split <;> exact hnone
    | everyone => exact hnone
  | queued => simp only; split <;> exact hnone
  | _ => exact hnone

theorem heard_advanceLoad (s : Session) (id : String) :
    (s.advanceLoad id).heard =
      s.heard ++ if s.setup.hasListener then (s.stage id).announces .listener id else [] := by
  have hnone : s.heard = s.heard ++ if s.setup.hasListener then [] else [] := by
    rw [ite_self, List.append_nil]
  unfold advanceLoad tell
  cases s.stage id with
  | requested told | settled _ told =>
    cases told with
    | nobody => exact hnone
    | queue =>
      simp only
      split
      · rfl
      · exact (List.append_nil _).symm
    | everyone => exact hnone
  | queued => simp only; split <;> exact hnone
  | _ => exact hnone

/-- The events that an action takes out of the queue. -/
def taken (s : Session) : Action → List Event
  | .drain => s.queue
  | _ => []

theorem taken_append_queue (s : Session) (a : Action) :
    taken s a ++ (s.step a).queue = s.queue ++ announces .queue s a := by
  have hnone : s.queue = s.queue ++ [] := (List.append_nil _).symm
  cases a with
  | advanceLoad id => exact queue_advanceLoad s id
  | drain => rfl
  | close => exact hnone
  | _ => exact (quiet_step s (by nofun) (by nofun) (by nofun)).queue.trans hnone

theorem heard_step (s : Session) (a : Action) :
    (s.step a).heard = s.heard ++ if s.setup.hasListener then announces .listener s a else [] := by
  have hnone : s.heard = s.heard ++ if s.setup.hasListener then [] else [] := by
    rw [ite_self, List.append_nil]
  cases a with
  | advanceLoad id => exact heard_advanceLoad s id
  | drain | close => exact hnone
  | _ => exact (quiet_step s (by nofun) (by nofun) (by nofun)).heard.trans hnone

/-! ### What a step means for a load -/

/-- What asks for a shard: a request for it, or a call that has it as its next target. -/
def Asks (s : Session) (id : String) : Action → Prop
  | .request i => i = id ∧ s.isKnown id = true
  | .advanceCall generation => ∃ c ∈ s.calls, c.generation = generation ∧ c.query ≠ "" ∧
    id ∈ s.targets c.query ∧ ∃ left, c.phase = .requesting (id :: left)
  | _ => False

/-- What the next step of a load fetches. -/
def Stage.fetches (id : String) : Stage → List String
  | .queued => [id]
  | _ => []

/-- A step asks for a shard for the first time, takes its load a stage further, or leaves the load
as it is. -/
inductive LoadEffect (s : Session) (a : Action) (id : String) : Prop where
  | ask (ha : Asks s id a) (h : s.stage id = .unloaded)
    (hnext : (s.step a).stage id = .requested .nobody)
  | advance (ha : a = .advanceLoad id) (h : s.stage id ≠ .unloaded)
    (hnext : LoadStep s.setup.source s.closed id (s.stage id) ((s.step a).stage id))
    (hfetched : (s.step a).fetched = s.fetched ++ (s.stage id).fetches id)
  | stay (hask : Asks s id a → s.stage id ≠ .unloaded)
    (hnext : (s.step a).stage id = s.stage id)
    (hidle : a = .advanceLoad id → s.step a = s ∧ (s.stage id).told = .everyone)

/-- The shards that a call has still to ask for. -/
def Phase.asking : Phase → List String
  | .requesting left => left
  | _ => []

/-- What a call has still to ask for are targets of its query. -/
def AsksTargets (s : Session) (c : Call) : Prop :=
  ∀ id ∈ c.phase.asking, c.query ≠ "" ∧ id ∈ s.targets c.query

theorem advanceLoad_cases (s : Session) (id : String) :
    (s.advanceLoad id = s ∧ (s.stage id).told = .everyone) ∨
      s.stage id ≠ .unloaded ∧
        LoadStep s.setup.source s.closed id (s.stage id) ((s.advanceLoad id).stage id) ∧
        (s.advanceLoad id).fetched = s.fetched ++ (s.stage id).fetches id := by
  have hmoves : s.stage id ≠ .unloaded → (s.stage id).isResolved = false →
      (s.stage id = .queued → s.fetchCount < max 1 s.setup.workers.toNat) →
      LoadStep s.setup.source s.closed id (s.stage id) ((s.advanceLoad id).stage id) := by
    intro hrequested
    refine loadStep_advanceLoad ?_ hrequested
    by_contra hk
    exact hrequested (stage_eq_unloaded (by simpa using hk))
  have hnone : s.fetched = s.fetched ++ [] := (List.append_nil _).symm
  cases hst : s.stage id with
  | unloaded => exact .inl ⟨by rw [advanceLoad, hst], rfl⟩
  | requested told =>
    rw [hst] at hmoves
    refine .inr ⟨nofun, hmoves nofun rfl nofun, ?_⟩
    rw [advanceLoad, hst]
    cases told with
    | queue => simp only [tell]; split <;> exact hnone
    | _ => exact hnone
  | queued =>
    by_cases hfree : s.fetchCount < max 1 s.setup.workers.toNat
    · rw [hst] at hmoves
      refine .inr ⟨nofun, hmoves nofun rfl fun _ => hfree, ?_⟩
      rw [advanceLoad, hst]
      simp only [if_pos hfree, Stage.fetches]
    · refine .inl ⟨?_, rfl⟩
      rw [advanceLoad, hst]
      exact if_neg hfree
  | fetching =>
    rw [hst] at hmoves
    refine .inr ⟨nofun, hmoves nofun rfl nofun, ?_⟩
    rw [advanceLoad, hst]
    exact hnone
  | settled o told =>
    rw [hst] at hmoves
    cases told with
    | everyone => exact .inl ⟨by rw [advanceLoad, hst], rfl⟩
    | nobody =>
      refine .inr ⟨nofun, hmoves nofun rfl nofun, ?_⟩
      rw [advanceLoad, hst]
      exact hnone
    | queue =>
      refine .inr ⟨nofun, hmoves nofun rfl nofun, ?_⟩
      rw [advanceLoad, hst]
      simp only [tell]
      split <;> exact hnone

theorem stage_advanceLoad_of_ne (h : i ≠ id) : (s.advanceLoad i).stage id = s.stage id := by
  have hset : ∀ (t : Session) (stage : Stage), t.shards = s.shards →
      (t.setStage i stage).stage id = s.stage id :=
    fun t stage ht => (stage_setStage_of_ne h.symm).trans (stage_congr ht id)
  unfold advanceLoad tell
  split
  all_goals first
    | rfl
    | exact hset _ _ rfl
    | (split <;> first | rfl | exact hset _ _ rfl)

/-- To ask for a shard a second time changes nothing. -/
theorem request_eq_self (h : s.stage id ≠ .unloaded) : s.request id = s := by
  unfold request
  split
  · rename_i hunloaded
    exact absurd hunloaded h
  · rfl

theorem loadEffect_of_request (hshards : (s.step a).shards = (s.request i).shards)
    (hk : s.isKnown i = true) (hasks : Asks s i a) (honly : ∀ id, Asks s id a → id = i)
    (ha : a ≠ .advanceLoad id) : LoadEffect s a id := by
  by_cases hid : id = i
  · subst hid
    by_cases h : s.stage id = .unloaded
    · refine .ask hasks h ?_
      rw [stage_congr hshards, request, h]
      exact stage_setStage_self hk
    · rw [request_eq_self h] at hshards
      exact .stay (fun _ => h) (stage_congr hshards id) fun heq => absurd heq ha
  · refine .stay (fun h => absurd (honly id h) hid) ?_ fun heq => absurd heq ha
    rw [stage_congr hshards, request]
    split
    · exact stage_setStage_of_ne hid
    · rfl

/-- What a step means for the load of a shard. -/
theorem loadEffect (hs : Sound s) (hn : Numbered s) (hcalls : ∀ c ∈ s.calls, AsksTargets s c)
    (a : Action) (id : String) : LoadEffect s a id := by
  cases a with
  | begin text => exact .stay nofun rfl nofun
  | drain => exact .stay nofun rfl nofun
  | close => exact .stay nofun rfl nofun
  | request i =>
    cases hk : s.isKnown i with
    | true =>
      exact loadEffect_of_request (congrArg shards (if_pos hk)) hk ⟨rfl, hk⟩ (fun _ h => h.1.symm)
        nofun
    | false =>
      have hstep : s.step (.request i) = s := if_neg (Bool.eq_false_iff.1 hk)
      refine .stay ?_ (by rw [hstep]) nofun
      rintro ⟨rfl, hknown⟩
      rw [hknown] at hk
      cases hk
  | advanceLoad i =>
    by_cases hid : i = id
    · subst hid
      rcases advanceLoad_cases s i with ⟨hidle, htold⟩ | ⟨h, hnext, hfetched⟩
      · exact .stay nofun (congrArg (stage · i) hidle) fun _ => ⟨hidle, htold⟩
      · exact .advance rfl h hnext hfetched
    · exact .stay nofun (stage_advanceLoad_of_ne hid)
        fun heq => absurd (Action.advanceLoad.inj heq) hid
  | advanceCall generation =>
    have hne : Action.advanceCall generation ≠ .advanceLoad id := by rintro ⟨⟩
    cases hc : s.call? generation with
    | none =>
      have hstep : s.step (.advanceCall generation) = s := by
        show s.advanceCall generation = s
        rw [advanceCall, hc]
      refine .stay ?_ (by rw [hstep]) fun heq => absurd heq hne
      rintro ⟨c, hmem, hgen, _⟩
      rw [hn.call?_eq_some.2 ⟨hmem, hgen⟩] at hc
      cases hc
    | some c =>
      obtain ⟨hmem, hgen⟩ := hn.call?_eq_some.1 hc
      have hstep : s.step (.advanceCall generation) = s.advanceOf c := by
        show s.advanceCall generation = s.advanceOf c
        rw [advanceCall, hc]
      have honly : ∀ id, Asks s id (.advanceCall generation) →
          ∃ left, c.phase = .requesting (id :: left) := by
        rintro id ⟨d, hd, hdgen, _, _, hphase⟩
        rwa [hn.eq_of_generation hmem hd (hgen.trans hdgen.symm)]
      by_cases hphase : ∃ i left, c.phase = .requesting (i :: left)
      · obtain ⟨i, left, hphase⟩ := hphase
        obtain ⟨hq, ht⟩ := hcalls c hmem i (by rw [hphase]; exact List.mem_cons_self)
        have hk : s.isKnown i = true := hs.isKnown_iff.2 (hs.mem_of_mem_targets ht)
        refine loadEffect_of_request ?_ hk ⟨c, hmem, hgen, hq, ht, left, hphase⟩ ?_ hne
        · rw [hstep, advanceOf, hphase]
          rfl
        · intro id hasks
          obtain ⟨left', hphase'⟩ := honly id hasks
          rw [hphase] at hphase'
          exact (List.cons.inj (Phase.requesting.inj hphase')).1.symm
      · have hshards : (s.advanceOf c).shards = s.shards := by
          unfold advanceOf
          split
          · rfl
          · rename_i i left h
            exact absurd ⟨i, left, h⟩ hphase
          · split
            · split <;> rfl
            · rfl
          · rfl
          · rfl
          · split <;> rfl
          · rfl
        refine .stay (fun h => absurd ?_ hphase) (by rw [hstep, stage_congr hshards])
          fun heq => absurd heq hne
        obtain ⟨left, hid⟩ := honly id h
        exact ⟨id, left, hid⟩

theorem Asks.ne_advanceLoad (h : Asks s id a) (i : String) : a ≠ .advanceLoad i := by
  rintro rfl
  exact h

theorem Asks.ne_close (h : Asks s id a) : a ≠ .close := by
  rintro rfl
  exact h

/-! ### What concerns one shard -/

/-- The events of a shard. -/
def eventsOf (id : String) (events : List Event) : List Event :=
  events.filter fun e => e.shardId == id

theorem eventsOf_announces (who : Audience) (stage : Stage) (id i : String) :
    eventsOf id (stage.announces who i) = if i = id then stage.announces who i else [] := by
  split
  · rename_i h
    exact List.filter_eq_self.2 fun e he => beq_iff_eq.2 ((shardId_of_mem_announces he).trans h)
  · rename_i h
    exact List.filter_eq_nil_iff.2 fun e he heq =>
      h ((shardId_of_mem_announces he).symm.trans (beq_iff_eq.1 heq))

theorem eventsOf_announces_of_ne (h : a ≠ .advanceLoad id) :
    eventsOf id (announces who s a) = [] := by
  cases a with
  | advanceLoad i =>
    rw [announces, eventsOf_announces, if_neg]
    rintro rfl
    exact h rfl
  | _ => rfl

/-- What was announced of a shard grows by what a step announces of it. -/
theorem LoadEffect.announced (h : LoadEffect s a id) :
    ((s.step a).stage id).announced who id =
      (s.stage id).announced who id ++ eventsOf id (announces who s a) := by
  cases h with
  | ask ha h hnext =>
    rw [eventsOf_announces_of_ne (ha.ne_advanceLoad id), h, hnext]
    cases who <;> rfl
  | advance ha _ hnext _ =>
    subst ha
    rw [announces, eventsOf_announces, if_pos rfl]
    exact hnext.announced_eq
  | stay _ hnext hidle =>
    rw [hnext]
    by_cases ha : a = .advanceLoad id
    · obtain ⟨_, htold⟩ := hidle ha
      subst ha
      rw [announces, eventsOf_announces, if_pos rfl, Stage.announces, htold]
      cases who <;> exact (List.append_nil _).symm
    · rw [eventsOf_announces_of_ne ha, List.append_nil]

theorem fetched_advanceLoad (s : Session) (id : String) :
    (s.advanceLoad id).fetched = s.fetched ∨ (s.advanceLoad id).fetched = s.fetched ++ [id] := by
  rcases advanceLoad_cases s id with ⟨hidle, _⟩ | ⟨_, _, hfetched⟩
  · rw [hidle]
    exact .inl rfl
  · rw [hfetched]
    cases s.stage id with
    | queued => exact .inr rfl
    | _ => exact .inl (List.append_nil _)

theorem count_fetched_of_ne (h : a ≠ .advanceLoad id) :
    (s.step a).fetched.count id = s.fetched.count id := by
  cases a with
  | advanceLoad i =>
    have hne : i ≠ id := by
      rintro rfl
      exact h rfl
    show (s.advanceLoad i).fetched.count id = s.fetched.count id
    rcases fetched_advanceLoad s i with hsame | hmore
    · rw [hsame]
    · rw [hmore, List.count_append, List.count_singleton, if_neg (mt beq_iff_eq.1 hne)]
      rfl
  | drain | close => rfl
  | _ => rw [(quiet_step s (by nofun) (by nofun) (by nofun)).fetched]

end SymbolIndex.Session
