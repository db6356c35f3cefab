import SymbolIndex.Session.Step

/-!
# What a step can change

A step keeps the setup and the ids of the shards, and takes each load at most one stage further
(`LoadStep`). So what is known of a load that has settled stays true (`Later`).
-/

namespace SymbolIndex.Session

variable {s t u : Session} {id other : String} {stage' : Stage}

/-- What every step preserves holds after a run. -/
theorem run_induction {P : Session → Prop} {actions : List Action} (h : P s)
    (hstep : ∀ t, P t → ∀ a ∈ actions, P (t.step a)) : P (s.run actions) := by
  induction actions generalizing s with
  | nil => exact h
  | cons a rest ih =>
    have hnext : P (s.step a) := hstep s h a List.mem_cons_self
    exact ih hnext fun t ht b hb => hstep t ht b (List.mem_cons_of_mem a hb)

/-! ### Stages -/

theorem stage_eq_unloaded (h : s.isKnown id = false) : s.stage id = .unloaded := by
  have hf : s.shards.find? (fun e => e.1 == id) = none :=
    List.find?_eq_none.2 (List.any_eq_false.1 h)
  rw [stage, hf]

theorem stage_of_mem_find? {i : String} {st : Stage}
    (h : s.shards.find? (fun e => e.1 == id) = some (i, st)) : s.stage id = st := by
  rw [stage, h]

theorem exists_find?_of_known (h : s.isKnown id = true) :
    ∃ st, s.shards.find? (fun e => e.1 == id) = some (id, st) := by
  obtain ⟨e, he⟩ := Option.isSome_iff_exists.1 (List.find?_isSome.2 (List.any_eq_true.1 h))
  have hid : e.1 = id := by simpa using List.find?_some he
  exact ⟨e.2, by rw [he, ← hid]⟩

theorem find?_setStage (s : Session) (id other : String) (stage' : Stage) :
    (s.setStage id stage').shards.find? (fun e => e.1 == other) =
      (s.shards.find? fun e => e.1 == other).map fun e =>
        if e.1 == id then (e.1, stage') else e := by
  rw [setStage, List.find?_map]
  congr 2
  funext e
  by_cases h : e.1 = id <;> simp [h]

theorem stage_setStage_of_ne (h : other ≠ id) :
    (s.setStage id stage').stage other = s.stage other := by
  unfold stage
  rw [find?_setStage]
  cases hf : s.shards.find? fun e => e.1 == other with
  | none => rfl
  | some e =>
    have he : e.1 ≠ id := by
      have : e.1 = other := by simpa using List.find?_some hf
      rwa [this]
    simp [he]

theorem stage_setStage_self (h : s.isKnown id = true) :
    (s.setStage id stage').stage id = stage' := by
  obtain ⟨st, hf⟩ := exists_find?_of_known h
  apply stage_of_mem_find? (i := id)
  rw [find?_setStage, hf]
  simp

theorem ids_setStage : (s.setStage id stage').shards.map (·.1) = s.shards.map (·.1) := by
  rw [setStage, List.map_map]
  congr 1
  funext e
  by_cases h : e.1 = id <;> simp [h]

/-- The steps of a load, as `Session.step` takes them. -/
inductive LoadStep (source : Source) (closed : Bool) (id : String) : Stage → Stage → Prop where
  | request : LoadStep source closed id .unloaded (.requested .nobody)
  | announce : LoadStep source closed id (.requested .nobody) (.requested .queue)
  | tell : LoadStep source closed id (.requested .queue) (.requested .everyone)
  | refuse (h : closed = true) :
    LoadStep source closed id (.requested .everyone) (.settled (.error shutdownReason) .nobody)
  | submit (h : closed = false) : LoadStep source closed id (.requested .everyone) .queued
  | fetch : LoadStep source closed id .queued .fetching
  | settle : LoadStep source closed id .fetching (.settled (load source id) .nobody)
  | announceOutcome (o : Outcome) :
    LoadStep source closed id (.settled o .nobody) (.settled o .queue)
  | tellOutcome (o : Outcome) :
    LoadStep source closed id (.settled o .queue) (.settled o .everyone)

/-- At most one step. -/
def LoadStep? (s : Session) (id : String) (stage' : Stage) : Prop :=
  stage' = s.stage id ∨ LoadStep s.setup.source s.closed id (s.stage id) stage'

theorem stage_congr (h : t.shards = s.shards) (id : String) : t.stage id = s.stage id := by
  rw [stage, stage, h]

theorem stage_of_setStage (h : LoadStep? s id stage')
    (ht : t.shards = (s.setStage id stage').shards) (other : String) :
    LoadStep? s other (t.stage other) := by
  rw [stage_congr ht]
  by_cases ho : other = id
  · subst ho
    cases hk : s.isKnown other with
    | true => rwa [stage_setStage_self hk]
    | false =>
      refine .inl ?_
      rw [stage_eq_unloaded hk, stage_eq_unloaded]
      rw [isKnown, List.any_eq_false] at hk ⊢
      intro e he
      obtain ⟨d, hd, rfl⟩ := List.mem_map.1 he
      have := hk d hd
      split <;> simpa using this
  · rw [stage_setStage_of_ne ho]
    exact .inl rfl

theorem stage_request (s : Session) (id other : String) :
    LoadStep? s other ((s.request id).stage other) := by
  unfold request
  split
  · rename_i h
    exact stage_of_setStage (.inr (h ▸ .request)) rfl other
  · exact .inl rfl

theorem stage_advanceLoad (s : Session) (id other : String) :
    LoadStep? s other ((s.advanceLoad id).stage other) := by
  have hstep : ∀ (st : Stage) {t : Session}, LoadStep s.setup.source s.closed id (s.stage id) st →
      t.shards = (s.setStage id st).shards → LoadStep? s other (t.stage other) :=
    fun _ _ h ht => stage_of_setStage (.inr h) ht other
  unfold advanceLoad tell
  cases hst : s.stage id with
  | unloaded => exact .inl rfl
  | requested told =>
    cases told with
    | nobody => exact hstep _ (hst ▸ .announce) rfl
    | queue =>
      apply hstep (.requested .everyone) (hst ▸ .tell)
      simp only
      split <;> rfl
    | everyone =>
      simp only
      split
      · rename_i hc; exact hstep _ (hst ▸ .refuse hc) rfl
      · rename_i hc; exact hstep _ (hst ▸ .submit (by simpa using hc)) rfl
  | queued =>
    simp only
    split
    · exact hstep _ (hst ▸ .fetch) rfl
    · exact .inl rfl
  | fetching => exact hstep _ (hst ▸ .settle) rfl
  | settled o told =>
    cases told with
    | nobody => exact hstep _ (hst ▸ .announceOutcome o) rfl
    | queue =>
      apply hstep (.settled o .everyone) (hst ▸ .tellOutcome o)
      simp only
      split <;> rfl
    | everyone => exact .inl rfl

/-! ### Calls -/

/-- Nothing that belongs to calls differs. -/
structure SameCalls (s t : Session) : Prop where
  setup : t.setup = s.setup
  calls : t.calls = s.calls
  last : t.last = s.last

theorem SameCalls.refl (s : Session) : SameCalls s s := ⟨rfl, rfl, rfl⟩

theorem sameCalls_request (s : Session) (id : String) : SameCalls s (s.request id) := by
  unfold request
  split <;> exact ⟨rfl, rfl, rfl⟩

theorem sameCalls_advanceLoad (s : Session) (id : String) : SameCalls s (s.advanceLoad id) := by
  unfold advanceLoad tell
  split
  all_goals first | exact .refl s | (split <;> exact ⟨rfl, rfl, rfl⟩) | exact ⟨rfl, rfl, rfl⟩

/-- A step leaves the calls alone, begins one, or is the next step of one. -/
theorem step_calls (s : Session) (a : Action) :
    SameCalls s (s.step a) ∨ (∃ text, a = .begin text ∧ s.step a = s.begin text) ∨
      ∃ c, s.call? c.generation = some c ∧ a = .advanceCall c.generation ∧
        s.step a = s.advanceOf c := by
  cases a with
  | begin text => exact .inr (.inl ⟨text, rfl, rfl⟩)
  | advanceCall generation =>
    rw [step, advanceCall]
    cases hc : s.call? generation with
    | none => exact .inl (.refl s)
    | some c =>
      obtain rfl : c.generation = generation := by simpa using List.find?_some hc
      exact .inr (.inr ⟨c, hc, rfl, rfl⟩)
  | request id =>
    left
    rw [step]
    split
    · exact sameCalls_request s id
    · exact .refl s
  | advanceLoad id => exact .inl (sameCalls_advanceLoad s id)
  | drain => exact .inl ⟨rfl, rfl, rfl⟩
  | close => exact .inl ⟨rfl, rfl, rfl⟩

/-- A step of a call asks for a shard at most, apart from the calls and what is remembered. -/
theorem exists_advanceOf_eq (s : Session) (c : Call) :
    ∃ (t : Session) (calls : List Call) (last : Option Snapshot), (t = s ∨ ∃ id, t = s.request id) ∧
      s.advanceOf c = { t with calls := calls, last := last } := by
  unfold advanceOf
  split
  · exact ⟨s, _, _, .inl rfl, rfl⟩
  · rename_i id _ _
    exact ⟨s.request id, _, _, .inr ⟨id, rfl⟩, rfl⟩
  · split
    · split <;> exact ⟨s, _, _, .inl rfl, rfl⟩
    · exact ⟨s, _, _, .inl rfl, rfl⟩
  · exact ⟨s, _, _, .inl rfl, rfl⟩
  · exact ⟨s, _, _, .inl rfl, rfl⟩
  · split <;> exact ⟨s, _, _, .inl rfl, rfl⟩
  · exact ⟨s, _, _, .inl rfl, rfl⟩

theorem shards_advanceOf (s : Session) (c : Call) :
    (s.advanceOf c).shards = s.shards ∨ ∃ id, (s.advanceOf c).shards = (s.request id).shards := by
  obtain ⟨t, calls, last, rfl | ⟨id, rfl⟩, h⟩ := exists_advanceOf_eq s c
  · exact .inl (by rw [h])
  · exact .inr ⟨id, by rw [h]⟩

/-- What a step does to a load. -/
theorem stage_step (s : Session) (a : Action) (id : String) :
    LoadStep? s id ((s.step a).stage id) := by
  cases a with
  | begin text => exact .inl rfl
  | advanceCall generation =>
    rw [step, advanceCall]
    split
    · rename_i c _
      rcases shards_advanceOf s c with h | ⟨i, h⟩
      · rw [stage_congr h]; exact .inl rfl
      · rw [stage_congr h]; exact stage_request s i id
    · exact .inl rfl
  | request i =>
    rw [step]
    split
    · exact stage_request s i id
    · exact .inl rfl
  | advanceLoad i => exact stage_advanceLoad s i id
  | drain => exact .inl rfl
  | close => exact .inl rfl

/-! ### What stays -/

theorem setup_advanceOf (s : Session) (c : Call) : (s.advanceOf c).setup = s.setup := by
  obtain ⟨t, calls, last, rfl | ⟨id, rfl⟩, h⟩ := exists_advanceOf_eq s c
  · rw [h]
  · rw [h]
    exact (sameCalls_request s id).setup

theorem ids_request (s : Session) (id : String) :
    (s.request id).shards.map (·.1) = s.shards.map (·.1) := by
  unfold request
  split
  · exact ids_setStage
  · rfl

theorem ids_advanceLoad (s : Session) (id : String) :
    (s.advanceLoad id).shards.map (·.1) = s.shards.map (·.1) := by
  unfold advanceLoad tell
  split
  all_goals first | rfl | exact ids_setStage | (split <;> first | rfl | exact ids_setStage)

theorem ids_step (s : Session) (a : Action) :
    (s.step a).shards.map (·.1) = s.shards.map (·.1) := by
  cases a with
  | begin text => rfl
  | advanceCall generation =>
    rw [step, advanceCall]
    split
    · rename_i c _
      rcases shards_advanceOf s c with h | ⟨i, h⟩
      · rw [h]
      · rw [h, ids_request]
    · rfl
  | request i =>
    rw [step]
    split
    · exact ids_request s i
    · rfl
  | advanceLoad i => exact ids_advanceLoad s i
  | drain => rfl
  | close => rfl

theorem setup_step (s : Session) (a : Action) : (s.step a).setup = s.setup := by
  rcases step_calls s a with h | ⟨text, _, h⟩ | ⟨c, _, _, h⟩
  · exact h.setup
  · rw [h]; rfl
  · rw [h, setup_advanceOf]

/-- Apart from its calls and its shards, nothing differs that a session gives out. -/
structure Quiet (s t : Session) : Prop where
  queue : t.queue = s.queue
  heard : t.heard = s.heard
  fetched : t.fetched = s.fetched
  closed : t.closed = s.closed

theorem quiet_request (s : Session) (id : String) : Quiet s (s.request id) := by
  unfold request
  split <;> exact ⟨rfl, rfl, rfl, rfl⟩

/-- Only loads, drains and closes give something out. -/
theorem quiet_step (s : Session) {a : Action} (hload : ∀ id, a ≠ .advanceLoad id)
    (hdrain : a ≠ .drain) (hclose : a ≠ .close) : Quiet s (s.step a) := by
  cases a with
  | begin text => exact ⟨rfl, rfl, rfl, rfl⟩
  | advanceCall generation =>
    rw [step, advanceCall]
    split
    · rename_i c _
      obtain ⟨t, calls, last, rfl | ⟨id, rfl⟩, h⟩ := exists_advanceOf_eq s c
      · rw [h]; exact ⟨rfl, rfl, rfl, rfl⟩
      · rw [h]
        obtain ⟨hqueue, hheard, hfetched, hclosed⟩ := quiet_request s id
        exact ⟨hqueue, hheard, hfetched, hclosed⟩
    · exact ⟨rfl, rfl, rfl, rfl⟩
  | request id =>
    rw [step]
    split
    · exact quiet_request s id
    · exact ⟨rfl, rfl, rfl, rfl⟩
  | advanceLoad id => exact absurd rfl (hload id)
  | drain => exact absurd rfl hdrain
  | close => exact absurd rfl hclose

theorem closed_advanceLoad (s : Session) (id : String) :
    (s.advanceLoad id).closed = s.closed := by
  unfold advanceLoad tell
  split
  all_goals first | rfl | (split <;> rfl)

theorem closed_step_of_ne {a : Action} (ha : a ≠ .close) : (s.step a).closed = s.closed := by
  cases a with
  | advanceLoad id => exact closed_advanceLoad s id
  | drain => rfl
  | close => exact absurd rfl ha
  | _ => exact (quiet_step s (by nofun) (by nofun) (by nofun)).closed

theorem closed_step (s : Session) (a : Action) :
    (s.step a).closed = true ↔ s.closed = true ∨ a = .close := by
  by_cases ha : a = .close
  · subst ha
    exact ⟨fun _ => .inr rfl, fun _ => rfl⟩
  · rw [closed_step_of_ne ha, or_iff_left ha]

/-- `t` may come after `s`: the setup is the same, and what is settled or resolved stays so. -/
structure Later (s t : Session) : Prop where
  setup : t.setup = s.setup
  ids : t.shards.map (·.1) = s.shards.map (·.1)
  settled : ∀ {id o told}, s.stage id = .settled o told → ∃ told', t.stage id = .settled o told'
  resolved : ∀ {id}, (s.stage id).isResolved = true → (t.stage id).isResolved = true
  requested : ∀ {id}, s.stage id ≠ .unloaded → t.stage id ≠ .unloaded

theorem Later.refl (s : Session) : Later s s := ⟨rfl, rfl, fun h => ⟨_, h⟩, id, id⟩

theorem Later.trans (h₁ : Later s t) (h₂ : Later t u) : Later s u where
  setup := h₂.setup.trans h₁.setup
  ids := h₂.ids.trans h₁.ids
  settled h := by
    obtain ⟨_, ht⟩ := h₁.settled h
    exact h₂.settled ht
  resolved h := h₂.resolved (h₁.resolved h)
  requested h := h₂.requested (h₁.requested h)

theorem later_of_loadStep (hset : t.setup = s.setup)
    (hids : t.shards.map (·.1) = s.shards.map (·.1))
    (h : ∀ id, LoadStep? s id (t.stage id)) : Later s t where
  setup := hset
  ids := hids
  settled {id o told} hs := by
    rcases h id with ht | ht
    · exact ⟨told, by rw [ht, hs]⟩
    · rw [hs] at ht
      generalize t.stage id = st at ht
      cases ht <;> exact ⟨_, rfl⟩
  resolved {id} hs := by
    rcases h id with ht | ht
    · rwa [ht]
    · generalize s.stage id = before at ht hs
      generalize t.stage id = after at ht ⊢
      cases ht <;> first | rfl | cases hs
  requested {id} hs := by
    rcases h id with ht | ht
    · rwa [ht]
    · generalize s.stage id = before at ht
      generalize t.stage id = after at ht ⊢
      cases ht <;> simp

theorem later_step (s : Session) (a : Action) : Later s (s.step a) :=
  later_of_loadStep (setup_step s a) (ids_step s a) (stage_step s a)

theorem later_run (s : Session) (actions : List Action) : Later s (s.run actions) :=
  run_induction (.refl s) fun t ht a _ => ht.trans (later_step t a)

theorem setup_run (setup : Setup) (actions : List Action) :
    ((start setup).run actions).setup = setup :=
  (later_run (start setup) actions).setup

theorem Later.isKnown (h : Later s t) (id : String) : t.isKnown id = s.isKnown id := by
  have hany : ∀ u : Session, u.isKnown id = (u.shards.map (·.1)).any fun i => i == id := by
    intro u
    rw [Session.isKnown, List.any_map]
    rfl
  rw [hany, hany, h.ids]

theorem Later.targets (h : Later s t) (query : String) : t.targets query = s.targets query := by
  have hk : t.isKnown = s.isKnown := funext h.isKnown
  rw [Session.targets, Session.targets, hk, manifest, manifest, h.setup]

/-! ### Outcomes -/

/-- How a load can end: as its source has it, or refused because the session was closed. -/
def OutcomeOk (s : Session) (id : String) (o : Outcome) : Prop :=
  o = load s.setup.source id ∨ o = .error shutdownReason

/-- A load that has ended had ended before the step, or the step ended it. -/
theorem outcome_step {a : Action} {o : Outcome} {told : Told}
    (h : (s.step a).stage id = .settled o told) :
    (∃ told', s.stage id = .settled o told') ∨ o = load s.setup.source id ∨
      s.closed = true ∧ o = .error shutdownReason := by
  rcases stage_step s a id with he | hl
  · exact .inl ⟨told, he.symm.trans h⟩
  · rw [h] at hl
    generalize s.stage id = before at hl ⊢
    cases hl with
    | refuse hclosed => exact .inr (.inr ⟨hclosed, rfl⟩)
    | settle => exact .inr (.inl rfl)
    | announceOutcome => exact .inl ⟨_, rfl⟩
    | tellOutcome => exact .inl ⟨_, rfl⟩

end SymbolIndex.Session
