import Mathlib.Data.List.Nodup
import SymbolIndex.Proofs.History
import SymbolIndex.SearchBox

/-!
# The newest request wins

At most one worker of a box is at work (`Lone`). With it, `Orderly` ties the box to its history:
the queries begun are those of requests in the order in which these were made, the responses
published are those of queries in the order in which these began, and once nobody is at work the
newest request has been dealt with. No request is lost between a worker that goes and a box that
makes one, since both happen under one lock.
-/

namespace SymbolIndex.SearchBox

open History

variable {ρ : Type} {b : SearchBox ρ} {actions : List (Action ρ)} {active : Option (Worker ρ)}
  {w w' : Worker ρ} {r : Request} {response : ρ} {ending : Ending ρ} {i : Nat}

/-! ### What happened -/

def Action.text? : Action ρ → Option String
  | .schedule text => some text
  | _ => none

/-- The requests made, numbered from 1. -/
def requests (actions : List (Action ρ)) : List Request :=
  (actions.filterMap Action.text?).mapIdx fun i text => ⟨i + 1, text⟩

/-- The results that an action takes out. -/
def taken (b : SearchBox ρ) : Action ρ → List (Request × ρ)
  | .drain => b.results
  | _ => []

/-- All results that were published, whether they were taken out or not. -/
def published (actions : List (Action ρ)) : List (Request × ρ) :=
  log step taken start actions ++ (start.run actions).results

/-- The query of a request was run to this end. -/
def Ended (r : Request) (ending : Ending ρ) : List (Action ρ) → Prop :=
  Happens fun before a => ∃ i, a = .finish i ending ∧
    (start.run before).workers[i]? = some (.querying r)

/-- A response was checked while its request was the newest. -/
def Current (r : Request) (response : ρ) : List (Action ρ) → Prop :=
  Happens fun before a => ∃ i, a = .check i ∧
    (start.run before).workers[i]? = some (.ended r (.answered response)) ∧
    (requests before).getLast? = some r

/-- A request was run to its end, and its response, if it has one, was published last. -/
def DealtWith (r : Request) (actions : List (Action ρ)) : Prop :=
  ∃ ending, Ended r ending actions ∧
    ∀ response, ending = .answered response → (published actions).getLast? = some (r, response)

theorem requests_schedule (actions : List (Action ρ)) (text : String) :
    requests (actions ++ [.schedule text]) =
      requests actions ++ [⟨(requests actions).length + 1, text⟩] := by
  simp [requests, Action.text?]

theorem requests_of_text?_eq_none {a : Action ρ} (h : a.text? = none) :
    requests (actions ++ [a]) = requests actions := by
  simp [requests, h]

theorem map_id_requests (actions : List (Action ρ)) :
    (requests actions).map (·.id) = List.range' 1 (requests actions).length := by
  apply List.ext_getElem (by simp)
  intro i _ _
  simp [requests, Nat.add_comm]

theorem id_of_getLast?_requests (h : (requests actions).getLast? = some r) :
    r.id = (requests actions).length := by
  have hid := congrArg List.getLast? (map_id_requests actions)
  rw [List.getLast?_map, h] at hid
  simp [List.getLast?_range'] at hid
  omega

theorem getLast?_requests_iff (h : r ∈ requests actions) :
    (requests actions).getLast? = some r ↔ r.id = (requests actions).length := by
  refine ⟨id_of_getLast?_requests, fun hid => ?_⟩
  obtain ⟨last, hlast⟩ :=
    Option.isSome_iff_exists.1 (List.getLast?_isSome.2 (List.ne_nil_of_mem h))
  have hnodup : ((requests actions).map (·.id)).Nodup := by
    rw [map_id_requests]
    exact List.nodup_range'
  rw [hlast, List.inj_on_of_nodup_map hnodup h (List.mem_of_getLast? hlast)
    (hid.trans (id_of_getLast?_requests hlast).symm)]

theorem id_le_of_mem_requests (h : r ∈ requests actions) : r.id ≤ (requests actions).length := by
  have hid : r.id ∈ (requests actions).map (·.id) := List.mem_map_of_mem h
  rw [map_id_requests, List.mem_range'_1] at hid
  omega

/-- What an action publishes. -/
def publishes (b : SearchBox ρ) : Action ρ → List (Request × ρ)
  | .publish i =>
    match b.workers[i]? with
    | some (.publishing r response) => [(r, response)]
    | _ => []
  | _ => []

theorem taken_append_results (b : SearchBox ρ) (a : Action ρ) :
    taken b a ++ (b.step a).results = b.results ++ publishes b a := by
  cases a with
  | schedule text => simp [taken, publishes, step, schedule]
  | take i => simp only [taken, publishes, step, take]; split <;> simp [setWorker]
  | finish i ending => simp only [taken, publishes, step, finish]; split <;> simp [setWorker]
  | check i => simp only [taken, publishes, step, check]; split <;> simp [setWorker]
  | publish i => simp only [taken, publishes, step, publish]; split <;> simp_all
  | drain => simp [taken, publishes, step, drain]

theorem published_concat (actions : List (Action ρ)) (a : Action ρ) :
    published (actions ++ [a]) = published actions ++ publishes (start.run actions) a := by
  have hlog : ∀ actions : List (Action ρ), published actions = log step publishes start actions :=
    log_append_pile taken_append_results start
  rw [hlog, hlog, log_concat]
  rfl

/-! ### One worker at most -/

def Worker.isGone : Worker ρ → Bool
  | .gone => true
  | _ => false

/-- All workers are gone, but for the newest if it is at work. -/
def Lone (b : SearchBox ρ) (active : Option (Worker ρ)) : Prop :=
  ∃ gone, b.workers = List.replicate gone .gone ++ active.toList ∧ active ≠ some .gone

/-- A worker that is not gone is the one at work, and only it changes. -/
theorem Lone.eq_of_get? (h : Lone b active) (hi : b.workers[i]? = some w) (hw : w ≠ .gone) :
    active = some w ∧ (∀ w', w' ≠ .gone → Lone (b.setWorker i w') (some w')) ∧
      Lone (b.setWorker i .gone) none := by
  obtain ⟨gone, hworkers, _⟩ := h
  rw [hworkers] at hi
  have hle : gone ≤ i := by
    by_contra hlt
    rw [List.getElem?_append_left (by simp; omega), List.getElem?_replicate_of_lt (by omega)] at hi
    exact hw (Option.some.inj hi).symm
  rw [List.getElem?_append_right (by simpa using hle), List.length_replicate] at hi
  cases active with
  | none => cases hi
  | some v =>
    have hi' : i = gone := by
      by_contra hne
      rw [Option.toList_some, List.getElem?_eq_none (by simp; omega)] at hi
      cases hi
    subst hi'
    rw [Nat.sub_self] at hi
    have hset : ∀ w', (b.setWorker i w').workers = List.replicate i .gone ++ [w'] := by
      intro w'
      rw [setWorker, hworkers]
      simp [List.set_append_right]
    exact ⟨hi, fun w' hw' => ⟨i, hset w', by simpa using hw'⟩, i + 1,
      by rw [hset, List.replicate_succ', Option.toList_none, List.append_nil], by simp⟩

/-! ### The invariant -/

/-- The request that a worker deals with. -/
def Worker.request? : Worker ρ → Option Request
  | .querying r | .ended r _ | .publishing r _ => some r
  | .ready | .gone => none

/-- What the history says of where a worker stands. -/
def WorkerOk (actions : List (Action ρ)) : Worker ρ → Prop
  | .ended r ending => Ended r ending actions
  | .publishing r response =>
    Ended r (.answered response) actions ∧ Current r response actions
  | _ => True

/-- A box after a history, with the worker at work. Of the requests made, all but the one that
waits were there earlier, and of these the last was begun unless one waits; of the requests begun,
all but the one at work are done. -/
structure Orderly (actions : List (Action ρ)) (b : SearchBox ρ) (active : Option (Worker ρ)) :
    Prop where
  lone : Lone b active
  running : b.isRunning = active.isSome
  woken : b.pending ≠ none → active ≠ none
  latest : b.latest = (requests actions).length
  begun : ∃ earlier, requests actions = earlier ++ b.pending.toList ∧ b.begun.Sublist earlier ∧
    (b.pending = none → b.begun.getLast? = earlier.getLast?)
  published : ∃ done, b.begun = done ++ (active.bind Worker.request?).toList ∧
    ((published actions).map (·.1)).Sublist done
  worker : ∀ w ∈ active, WorkerOk actions w
  responses : ∀ r response, (r, response) ∈ SearchBox.published actions →
    Ended r (.answered response) actions ∧ Current r response actions
  dealt : active.bind Worker.request? = none → ∀ r, b.begun.getLast? = some r →
    (requests actions).getLast? = some r → DealtWith r actions

theorem orderly_start : Orderly ([] : List (Action ρ)) start none where
  lone := ⟨0, rfl, nofun⟩
  running := rfl
  woken h := absurd rfl h
  latest := rfl
  begun := ⟨[], rfl, .slnil, fun _ => rfl⟩
  published := ⟨[], rfl, .slnil⟩
  worker := nofun
  responses := nofun
  dealt := nofun

theorem Orderly.begun_sublist (h : Orderly actions b active) :
    b.begun.Sublist (requests actions) := by
  obtain ⟨earlier, hrequests, hbegun, _⟩ := h.begun
  rw [hrequests]
  exact hbegun.trans (List.sublist_append_left _ _)

/-- A worker deals with the request begun last. -/
theorem Orderly.getLast?_begun (h : Orderly actions b (some w)) (hr : w.request? = some r) :
    b.begun.getLast? = some r := by
  obtain ⟨done, hbegun, _⟩ := h.published
  rw [hbegun, Option.bind_some, hr]
  simp

theorem Orderly.mem_requests (h : Orderly actions b (some w)) (hr : w.request? = some r) :
    r ∈ requests actions :=
  h.begun_sublist.subset (List.mem_of_getLast? (h.getLast?_begun hr))

/-! ### Steps -/

/-- Apart from the worker at work, nothing differs that concerns requests. -/
structure SameRequests (b b' : SearchBox ρ) : Prop where
  latest : b'.latest = b.latest
  pending : b'.pending = b.pending
  begun : b'.begun = b.begun

theorem DealtWith.concat {a : Action ρ} (h : DealtWith r actions)
    (hout : published (actions ++ [a]) = published actions) : DealtWith r (actions ++ [a]) := by
  obtain ⟨ending, hended, hlast⟩ := h
  exact ⟨ending, hended.concat, by rwa [hout]⟩

/-- What was published stays an answer to its request when nothing is published beside it. -/
theorem Orderly.responses_concat (h : Orderly actions b active) {a : Action ρ}
    (hout : SearchBox.published (actions ++ [a]) = SearchBox.published actions) (r : Request)
    (response : ρ) (hmem : (r, response) ∈ SearchBox.published (actions ++ [a])) :
    Ended r (.answered response) (actions ++ [a]) ∧ Current r response (actions ++ [a]) := by
  rw [hout] at hmem
  obtain ⟨hended, hcurrent⟩ := h.responses r response hmem
  exact ⟨hended.concat, hcurrent.concat⟩

/-- The worker at work goes on with its request, or is done with it and has dealt with it if it is
the newest. -/
theorem Orderly.advance (h : Orderly actions b active) {a : Action ρ} {b' : SearchBox ρ}
    {active' : Option (Worker ρ)} (hsame : SameRequests b b') (htext : a.text? = none)
    (hout : SearchBox.published (actions ++ [a]) = SearchBox.published actions)
    (hlone : Lone b' active') (hrunning : b'.isRunning = active'.isSome)
    (hwoken : b.pending ≠ none → active' ≠ none)
    (hworker : ∀ w ∈ active', WorkerOk (actions ++ [a]) w)
    (hrequest : active'.bind Worker.request? = active.bind Worker.request? ∨
      active'.bind Worker.request? = none ∧ ∀ r, active.bind Worker.request? = some r →
        (requests actions).getLast? = some r → DealtWith r (actions ++ [a])) :
    Orderly (actions ++ [a]) b' active' where
  lone := hlone
  running := hrunning
  woken := by rwa [hsame.pending]
  latest := by rw [hsame.latest, requests_of_text?_eq_none htext, h.latest]
  begun := by
    rw [hsame.pending, hsame.begun, requests_of_text?_eq_none htext]
    exact h.begun
  published := by
    obtain ⟨done, hbegun, hpublished⟩ := h.published
    rw [hsame.begun, hout]
    rcases hrequest with hkept | ⟨hnone, _⟩
    · exact ⟨done, by rw [hkept, hbegun], hpublished⟩
    · refine ⟨b.begun, by rw [hnone]; simp, hpublished.trans ?_⟩
      rw [hbegun]
      exact List.sublist_append_left _ _
  worker := hworker
  responses := h.responses_concat hout
  dealt hnone r hlast hnewest := by
    rw [requests_of_text?_eq_none htext] at hnewest
    rw [hsame.begun] at hlast
    cases hactive : active.bind Worker.request? with
    | none => exact (h.dealt hactive r hlast hnewest).concat hout
    | some r' =>
      rcases hrequest with hkept | ⟨_, hdealt⟩
      · rw [hnone, hactive] at hkept
        cases hkept
      · obtain ⟨done, hbegun, _⟩ := h.published
        rw [hbegun, hactive] at hlast
        obtain rfl : r' = r := by simpa using hlast
        exact hdealt r' hactive hnewest

theorem WorkerOk.concat {a : Action ρ} (h : WorkerOk actions w) : WorkerOk (actions ++ [a]) w := by
  cases w with
  | ended r ending => exact Happens.concat h
  | publishing r response => exact ⟨h.1.concat, h.2.concat⟩
  | _ => trivial

/-- Nothing happens, but that results are taken out. -/
theorem Orderly.idle (h : Orderly actions b active) {a : Action ρ} {b' : SearchBox ρ}
    (hsame : SameRequests b b') (htext : a.text? = none)
    (hout : SearchBox.published (actions ++ [a]) = SearchBox.published actions)
    (hworkers : b'.workers = b.workers) (hrunning : b'.isRunning = b.isRunning) :
    Orderly (actions ++ [a]) b' active := by
  refine h.advance hsame htext hout ?_ (hrunning.trans h.running) h.woken
    (fun w hw => (h.worker w hw).concat) (.inl rfl)
  rw [Lone, hworkers]
  exact h.lone

theorem Orderly.schedule (h : Orderly actions b active) (text : String) :
    ∃ active', Orderly (actions ++ [.schedule text]) (b.schedule text) active' := by
  have hnew := requests_schedule actions text
  have hout : SearchBox.published (actions ++ [.schedule text]) = SearchBox.published actions := by
    rw [published_concat]
    exact List.append_nil _
  -- An idle box gets a worker; another keeps its own, which will find the request.
  refine ⟨some (active.getD .ready), ?_, ?_, by simp, ?_, ?_, ?_, ?_, ?_, ?_⟩
  · obtain ⟨gone, hworkers, hactive⟩ := h.lone
    refine ⟨gone, ?_, ?_⟩
    · simp only [SearchBox.schedule, h.running, hworkers]
      cases active <;> simp
    · cases active <;> simp_all
  · rfl
  · rw [hnew, List.length_append, List.length_singleton, ← h.latest]
    rfl
  · refine ⟨requests actions, ?_, h.begun_sublist, nofun⟩
    rw [hnew, ← h.latest]
    rfl
  · obtain ⟨done, hbegun, hpublished⟩ := h.published
    refine ⟨done, ?_, hout ▸ hpublished⟩
    cases active with
    | none => exact hbegun
    | some w => exact hbegun
  · intro w hw
    cases active with
    | none =>
      obtain rfl := Option.some.inj hw
      trivial
    | some v =>
      obtain rfl := Option.some.inj hw
      exact (h.worker v rfl).concat
  · exact h.responses_concat hout
  · intro _ r hlast hnewest
    have hmem : r ∈ requests actions := h.begun_sublist.subset (List.mem_of_getLast? hlast)
    have hle := id_le_of_mem_requests hmem
    have hid := id_of_getLast?_requests hnewest
    rw [hnew, List.length_append, List.length_singleton] at hid
    omega

theorem published_concat_of_nil {a : Action ρ} (h : publishes (start.run actions) a = []) :
    published (actions ++ [a]) = published actions := by
  rw [published_concat, h, List.append_nil]

theorem Orderly.take (h : Orderly actions (start.run actions) active) (i : Nat) :
    ∃ active', Orderly (actions ++ [.take i]) ((start.run actions).take i) active' := by
  have hout : SearchBox.published (actions ++ [.take i]) = SearchBox.published actions :=
    published_concat_of_nil rfl
  unfold SearchBox.take
  split
  · rename_i r hi hpending
    obtain ⟨rfl, hlone, _⟩ := h.lone.eq_of_get? hi nofun
    obtain ⟨earlier, hrequests, hbegun, _⟩ := h.begun
    obtain ⟨done, hdone, hpublished⟩ := h.published
    rw [hpending] at hrequests
    have hnew : requests (actions ++ [.take i]) = requests actions :=
      requests_of_text?_eq_none rfl
    refine ⟨some (.querying r), hlone _ nofun, h.running, nofun, ?_, ?_, ?_, ?_, ?_, nofun⟩
    · rw [hnew]
      exact h.latest
    · refine ⟨earlier ++ [r], by rw [hnew, hrequests]; simp, hbegun.append_right _, fun _ => ?_⟩
      simp
    · refine ⟨(start.run actions).begun, rfl, ?_⟩
      rw [hout, hdone]
      exact hpublished.trans (List.sublist_append_left _ _)
    · rintro w ⟨⟩
      trivial
    · exact h.responses_concat hout
  · rename_i hi hpending
    obtain ⟨rfl, _, hlone⟩ := h.lone.eq_of_get? hi nofun
    exact ⟨none, h.advance ⟨rfl, rfl, rfl⟩ rfl hout hlone rfl (fun hp => absurd hpending hp) nofun
      (.inl rfl)⟩
  · exact ⟨active, h.idle ⟨rfl, rfl, rfl⟩ rfl hout rfl rfl⟩

theorem Orderly.finish (h : Orderly actions (start.run actions) active) (i : Nat)
    (ending : Ending ρ) :
    ∃ active', Orderly (actions ++ [.finish i ending]) ((start.run actions).finish i ending)
      active' := by
  have hout : SearchBox.published (actions ++ [.finish i ending]) = SearchBox.published actions :=
    published_concat_of_nil rfl
  unfold SearchBox.finish
  split
  · rename_i r hi
    obtain ⟨rfl, hlone, _⟩ := h.lone.eq_of_get? hi nofun
    have hended : Ended r ending (actions ++ [.finish i ending]) :=
      happens_concat.2 (.inr ⟨i, rfl, hi⟩)
    refine ⟨some (.ended r ending), h.advance ⟨rfl, rfl, rfl⟩ rfl hout (hlone _ nofun) h.running
      nofun ?_ (.inl rfl)⟩
    rintro w ⟨⟩
    exact hended
  · exact ⟨active, h.idle ⟨rfl, rfl, rfl⟩ rfl hout rfl rfl⟩

theorem Orderly.check (h : Orderly actions (start.run actions) active) (i : Nat) :
    ∃ active', Orderly (actions ++ [.check i]) ((start.run actions).check i) active' := by
  have hout : SearchBox.published (actions ++ [.check i]) = SearchBox.published actions :=
    published_concat_of_nil rfl
  unfold SearchBox.check
  split
  · rename_i r response hi
    obtain ⟨rfl, hlone, _⟩ := h.lone.eq_of_get? hi nofun
    have hended : Ended r (.answered response) actions := h.worker _ rfl
    have hnewest : (requests actions).getLast? = some r ↔ r.id = (start.run actions).latest := by
      rw [h.latest]
      exact getLast?_requests_iff (h.mem_requests rfl)
    split
    · rename_i hid
      have hcurrent : Current r response (actions ++ [.check i]) :=
        happens_concat.2 (.inr ⟨i, rfl, hi, hnewest.2 hid⟩)
      refine ⟨some (.publishing r response), h.advance ⟨rfl, rfl, rfl⟩ rfl hout (hlone _ nofun)
        h.running nofun ?_ (.inl rfl)⟩
      rintro w ⟨⟩
      exact ⟨hended.concat, hcurrent⟩
    · rename_i hid
      refine ⟨some .ready, h.advance ⟨rfl, rfl, rfl⟩ rfl hout (hlone _ nofun) h.running nofun
        ?_ (.inr ⟨rfl, ?_⟩)⟩
      · rintro w ⟨⟩
        trivial
      · rintro r' ⟨⟩ hlast
        exact absurd (hnewest.1 hlast) hid
  · rename_i r ending hanswered hi
    obtain ⟨rfl, hlone, _⟩ := h.lone.eq_of_get? hi nofun
    have hended : Ended r ending actions := h.worker _ rfl
    refine ⟨some .ready, h.advance ⟨rfl, rfl, rfl⟩ rfl hout (hlone _ nofun) h.running nofun
      ?_ (.inr ⟨rfl, ?_⟩)⟩
    · rintro w ⟨⟩
      trivial
    · rintro r' ⟨⟩ _
      exact ⟨ending, hended.concat, fun response heq => absurd heq (hanswered response)⟩
  · exact ⟨active, h.idle ⟨rfl, rfl, rfl⟩ rfl hout rfl rfl⟩

theorem Orderly.publish (h : Orderly actions (start.run actions) active) (i : Nat) :
    ∃ active', Orderly (actions ++ [.publish i]) ((start.run actions).publish i) active' := by
  unfold SearchBox.publish
  split
  · rename_i r response hi
    obtain ⟨rfl, hlone, _⟩ := h.lone.eq_of_get? hi nofun
    have hout : SearchBox.published (actions ++ [.publish i]) =
        SearchBox.published actions ++ [(r, response)] := by
      rw [published_concat, publishes, hi]
    obtain ⟨hended, hcurrent⟩ : Ended r (.answered response) actions ∧
      Current r response actions := h.worker _ rfl
    obtain ⟨done, hbegun, hpublished⟩ := h.published
    have hnew : requests (actions ++ [.publish i]) = requests actions :=
      requests_of_text?_eq_none rfl
    refine ⟨some .ready, hlone _ nofun, h.running, nofun, ?_, ?_, ?_, ?_, ?_, ?_⟩
    · rw [hnew]
      exact h.latest
    · rw [hnew]
      exact h.begun
    · refine ⟨(start.run actions).begun, (List.append_nil _).symm, ?_⟩
      rw [hout, hbegun, List.map_append]
      exact hpublished.append_right _
    · rintro w ⟨⟩
      trivial
    · intro r' response' hmem
      rw [hout, List.mem_append, List.mem_singleton] at hmem
      rcases hmem with hmem | hnew
      · obtain ⟨hended, hcurrent⟩ := h.responses r' response' hmem
        exact ⟨hended.concat, hcurrent.concat⟩
      · obtain ⟨rfl, rfl⟩ := Prod.mk.inj hnew
        exact ⟨hended.concat, hcurrent.concat⟩
    · intro _ r' hlast _
      obtain rfl : r = r' := Option.some.inj ((h.getLast?_begun rfl).symm.trans hlast)
      refine ⟨.answered response, hended.concat, ?_⟩
      rintro _ ⟨⟩
      rw [hout]
      simp
  · rename_i hi
    have hout : publishes (start.run actions) (.publish i) = [] := by
      simp only [publishes]
    exact ⟨active, h.idle ⟨rfl, rfl, rfl⟩ rfl (published_concat_of_nil hout) rfl rfl⟩

theorem Orderly.step (h : Orderly actions (start.run actions) active) (a : Action ρ) :
    ∃ active', Orderly (actions ++ [a]) ((start.run actions).step a) active' := by
  cases a with
  | schedule text => exact h.schedule text
  | take i => exact h.take i
  | finish i ending => exact h.finish i ending
  | check i => exact h.check i
  | publish i => exact h.publish i
  | drain => exact ⟨active, h.idle ⟨rfl, rfl, rfl⟩ rfl (published_concat_of_nil rfl) rfl rfl⟩

theorem exists_orderly_run (actions : List (Action ρ)) :
    ∃ active, Orderly actions (start.run actions) active :=
  run_induction_concat (I := fun actions b => ∃ active, Orderly actions b active)
    ⟨none, orderly_start⟩ (fun _ a ⟨_, h⟩ => h.step a) actions

/-! ### What a box guarantees -/

theorem pairwise_id_of_sublist {l : List Request} (h : l.Sublist (requests actions)) :
    (l.map (·.id)).Pairwise (· < ·) := by
  have hids := h.map (·.id)
  rw [map_id_requests] at hids
  exact List.Pairwise.sublist hids List.pairwise_lt_range'

theorem Lone.countP (h : Lone b active) :
    b.workers.countP (fun w => !w.isGone) = active.isSome.toNat := by
  obtain ⟨gone, hworkers, hactive⟩ := h
  rw [hworkers]
  cases active with
  | none => simp [Worker.isGone]
  | some w => cases w <;> simp_all [Worker.isGone]

/-- At most one worker is at work, and the box knows whether one is; while a request waits, one is.
The queries run are those of requests, each once and in the order of their numbers. So are the
responses published, and each was current when it was checked. When nobody is at work, nothing
waits and the newest request has been dealt with. -/
theorem newest_request_is_dealt_with (actions : List (Action ρ)) :
    let b := start.run actions
    b.workers.countP (fun w => !w.isGone) = b.isRunning.toNat ∧
    (b.pending.isSome → ∃ w ∈ b.workers, w.isGone = false) ∧
    b.begun.Sublist (requests actions) ∧ (b.begun.map (·.id)).Pairwise (· < ·) ∧
    ((published actions).map (·.1.id)).Pairwise (· < ·) ∧
    (∀ r response, (r, response) ∈ published actions →
      Ended r (.answered response) actions ∧ Current r response actions) ∧
    ((∀ w ∈ b.workers, w.isGone = true) → b.pending = none ∧
      ∀ r, (requests actions).getLast? = some r → DealtWith r actions) := by
  intro b
  obtain ⟨active, h⟩ := exists_orderly_run actions
  have hcount := h.lone.countP
  have hsome : active.isSome → ∃ w ∈ b.workers, w.isGone = false := by
    intro hactive
    have hpos : 0 < (start.run actions).workers.countP fun w => !w.isGone := by
      rw [hcount, hactive]
      exact Nat.one_pos
    obtain ⟨w, hw, hgone⟩ := List.countP_pos_iff.1 hpos
    exact ⟨w, hw, by simpa using hgone⟩
  refine ⟨?_, ?_, h.begun_sublist, pairwise_id_of_sublist h.begun_sublist, ?_, h.responses, ?_⟩
  · rw [hcount, h.running]
  · intro hpending
    apply hsome
    rw [Option.isSome_iff_ne_none]
    exact h.woken (Option.isSome_iff_ne_none.1 hpending)
  · obtain ⟨done, hbegun, hpublished⟩ := h.published
    have hdone : done.Sublist b.begun := by
      rw [hbegun]
      exact List.sublist_append_left _ _
    have hids := pairwise_id_of_sublist (hpublished.trans (hdone.trans h.begun_sublist))
    rwa [List.map_map] at hids
  · intro hgone
    have hnone : active = none := by
      rw [← Option.not_isSome_iff_eq_none]
      intro hactive
      obtain ⟨w, hw, hw'⟩ := hsome hactive
      rw [hgone w hw] at hw'
      cases hw'
    subst hnone
    have hpending : b.pending = none := by
      by_contra hpending
      exact h.woken hpending rfl
    refine ⟨hpending, fun r hr => h.dealt rfl r ?_ hr⟩
    obtain ⟨earlier, hrequests, _, hlast⟩ := h.begun
    rw [hlast hpending, ← hr, hrequests, hpending]
    simp

/-- Of three requests, the second is replaced while the query of the first runs, and the response
to the first is dropped. -/
example :
    (start : SearchBox String).run
      [.schedule "e", .take 0, .schedule "ef", .schedule "efq", .finish 0 (.answered "E"), .check 0,
        .take 0, .finish 0 (.answered "EFQ"), .check 0, .publish 0, .take 0] =
      ⟨[.gone], false, none, 3, [⟨1, "e"⟩, ⟨3, "efq"⟩], [(⟨3, "efq"⟩, "EFQ")]⟩ := by
  decide

end SymbolIndex.SearchBox
