import Mathlib.Data.List.Chain
import Mathlib.Data.List.Count
import SymbolIndex.Match.Result
import SymbolIndex.Proofs.Match.Ranking

/-!
# Groups of results

The groups of results are their runs, and no other list of groups is (`group_eq_iff`). The results
of candidates that differ from their neighbours and have occurrences fall into one run for each
candidate (`runs_expand`), so to cut results by groups is to cut the candidates that they come from.
-/

namespace SymbolIndex.Match

variable {c : Candidate} {cs : List Candidate} {r : Result} {rs : List Result} {g : Group}
  {gs : List Group}

/-- What tells the results of one entry from those of others: their shard and their key. -/
def Result.place (r : Result) : String × String := (r.shardId, r.key)

theorem sameEntry_iff {a b : Result} : sameEntry a b = true ↔ a.place = b.place := by
  simp [sameEntry, Result.place, and_comm]

/-! ### Adding a result -/

theorem addResult_same {a : Result} {as : List Result} {key name : String}
    (h : r.place = a.place) : addResult r (⟨key, name, a :: as⟩ :: gs) =
      ⟨r.key, r.displayName, r :: a :: as⟩ :: gs := by
  simp [addResult, sameEntry_iff.2 h]

theorem addResult_other (h : ∀ g ∈ gs.head?, ∀ a ∈ g.results.head?, r.place ≠ a.place) :
    addResult r gs = ⟨r.key, r.displayName, [r]⟩ :: gs := by
  cases gs with
  | nil => rfl
  | cons g gs =>
    have hother : (g.results.head?.map (sameEntry r)).getD false = false := by
      cases hg : g.results.head? with
      | none => rfl
      | some a =>
        rw [Option.map_some, Option.getD_some, Bool.eq_false_iff, Ne, sameEntry_iff]
        exact h g rfl a hg
    simp [addResult, hother]

/-! ### Runs -/

/-- Results of one entry, named by the first of them. -/
inductive Group.IsRun : Group → Prop where
  | mk (r : Result) (rs : List Result) (alike : ∀ a ∈ rs, a.place = r.place) :
    IsRun ⟨r.key, r.displayName, r :: rs⟩

/-- Whether no result of one group is of the entry of a result of the other. -/
def Group.Differs (g h : Group) : Prop := ∀ a ∈ g.results, ∀ b ∈ h.results, a.place ≠ b.place

/-- What groups have to be for results to be divided into their runs: together they are the
results, each is of one entry, and neighbours are of different ones. -/
structure Runs (rs : List Result) (gs : List Group) : Prop where
  flatten : gs.flatMap (·.results) = rs
  isRun : ∀ g ∈ gs, g.IsRun
  differ : gs.IsChain Group.Differs

/-- The results of a run in front of groups make one group more, if the first of the groups is of
another entry. -/
theorem Group.IsRun.foldr_addResult (hg : g.IsRun) (hnext : ∀ h ∈ gs.head?, g.Differs h) :
    g.results.foldr addResult gs = g :: gs := by
  obtain ⟨r, rs, alike⟩ := hg
  simp only at hnext ⊢
  -- Results are added from the last to the first, so what is behind `r` is one group already.
  induction rs generalizing r with
  | nil =>
    rw [List.foldr_cons, List.foldr_nil]
    apply addResult_other
    intro h hh a ha
    exact hnext h hh r List.mem_cons_self a (List.mem_of_head? ha)
  | cons r' rs ih =>
    have hplace : r.place = r'.place := (alike r' List.mem_cons_self).symm
    have hrest := ih r' (fun a ha => (alike a (List.mem_cons_of_mem r' ha)).trans hplace)
      fun h hh a ha => hnext h hh a (List.mem_cons_of_mem r ha)
    rw [List.foldr_cons, hrest, addResult_same hplace]

/-- A result in front makes the first run longer, or begins a run of its own. -/
theorem Runs.addResult (h : Runs rs gs) (r : Result) : Runs (r :: rs) (addResult r gs) := by
  obtain ⟨rfl, isRun, differ⟩ := h
  cases gs with
  | nil => exact ⟨rfl, by simpa [Match.addResult] using .mk r [] (by simp), .singleton _⟩
  | cons g gs =>
    obtain ⟨hnext, htail⟩ := List.isChain_cons.1 differ
    obtain ⟨hg, hgs⟩ := List.forall_mem_cons.1 isRun
    obtain ⟨a, as, alike⟩ := hg
    by_cases hplace : r.place = a.place
    · rw [addResult_same hplace]
      refine ⟨rfl, ?_, List.isChain_cons.2 ⟨fun h hh b hb => ?_, htail⟩⟩
      · refine List.forall_mem_cons.2 ⟨.mk r (a :: as) fun b hb => ?_, hgs⟩
        rcases List.mem_cons.1 hb with rfl | hb
        · exact hplace.symm
        · exact (alike b hb).trans hplace.symm
      · rcases List.mem_cons.1 hb with rfl | hb
        · rw [hplace]
          exact hnext h hh a List.mem_cons_self
        · exact hnext h hh b hb
    · have hother : ∀ b ∈ a :: as, r.place ≠ b.place := by
        intro b hb
        rcases List.mem_cons.1 hb with rfl | hb
        · exact hplace
        · rwa [alike b hb]
      rw [addResult_other (by simpa using hplace)]
      refine ⟨rfl, List.forall_mem_cons.2 ⟨.mk r [] (by simp), isRun⟩,
        List.isChain_cons.2 ⟨?_, differ⟩⟩
      simpa [Group.Differs] using hother

theorem runs_group (rs : List Result) : Runs rs (group rs) := by
  induction rs with
  | nil => exact ⟨rfl, nofun, .nil⟩
  | cons r rs ih => exact ih.addResult r

theorem Runs.group_eq (h : Runs rs gs) : group rs = gs := by
  induction gs generalizing rs with
  | nil =>
    obtain ⟨rfl, -, -⟩ := h
    rfl
  | cons g gs ih =>
    obtain ⟨rfl, isRun, differ⟩ := h
    obtain ⟨hnext, htail⟩ := List.isChain_cons.1 differ
    obtain ⟨hg, hgs⟩ := List.forall_mem_cons.1 isRun
    have hrest : group (gs.flatMap (·.results)) = gs := ih ⟨rfl, hgs, htail⟩
    rw [List.flatMap_cons, group, List.foldr_append, ← group, hrest, hg.foldr_addResult hnext]

theorem group_eq_iff : group rs = gs ↔ Runs rs gs :=
  ⟨fun h => h ▸ runs_group rs, Runs.group_eq⟩

/-! ### Candidates -/

/-- The result for one occurrence of a candidate. -/
def Candidate.result (c : Candidate) (o : Occurrence) : Result :=
  ⟨c.entry.key, c.entry.displayName, o.anchorUrl, o.scopeLabel, c.shardId⟩

/-- What tells the candidates of one list from each other: their shard and their key. -/
def Candidate.place (c : Candidate) : String × String := (c.shardId, c.entry.key)

/-- The group of a candidate: all its results. -/
def Candidate.group (c : Candidate) : Group := ⟨c.entry.key, c.entry.displayName, c.results⟩

/-- Whether two candidates stand for different entries. -/
def Candidate.Differs (c d : Candidate) : Prop :=
  ¬ (c.entry.key = d.entry.key ∧ c.shardId = d.shardId)

theorem entry_of_mem_results (h : r ∈ c.results) :
    r.key = c.entry.key ∧ r.displayName = c.entry.displayName ∧ r.shardId = c.shardId := by
  obtain ⟨o, _, rfl⟩ := List.mem_map.1 h
  exact ⟨rfl, rfl, rfl⟩

theorem place_of_mem_results (h : r ∈ c.results) : r.place = c.place := by
  obtain ⟨hkey, -, hid⟩ := entry_of_mem_results h
  rw [Result.place, Candidate.place, hkey, hid]

theorem isRun_group (h : c.entry.occurrences ≠ []) : c.group.IsRun := by
  cases hresults : c.results with
  | nil => exact absurd (List.map_eq_nil_iff.1 hresults) h
  | cons r rs =>
    have hmem : ∀ a ∈ r :: rs, a ∈ c.results := fun a ha => hresults ▸ ha
    obtain ⟨hkey, hname, -⟩ := entry_of_mem_results (hmem r List.mem_cons_self)
    rw [Candidate.group, hresults, ← hkey, ← hname]
    refine .mk r rs fun a ha => ?_
    rw [place_of_mem_results (hmem a (List.mem_cons_of_mem r ha)),
      place_of_mem_results (hmem r List.mem_cons_self)]

/-- The runs of expanded candidates are those of the candidates, one each. -/
theorem runs_expand (hplaces : ∀ c ∈ cs, c.entry.occurrences ≠ [])
    (hdiffer : cs.IsChain Candidate.Differs) : Runs (expand cs) (cs.map Candidate.group) := by
  refine ⟨by rw [List.flatMap_map]; rfl, ?_, ?_⟩
  · intro g hg
    obtain ⟨c, hc, rfl⟩ := List.mem_map.1 hg
    exact isRun_group (hplaces c hc)
  · rw [List.isChain_map]
    refine hdiffer.imp fun c d hcd a ha b hb heq => hcd ?_
    rw [place_of_mem_results ha, place_of_mem_results hb] at heq
    exact ⟨(Prod.ext_iff.1 heq).2, (Prod.ext_iff.1 heq).1⟩

theorem group_expand (hplaces : ∀ c ∈ cs, c.entry.occurrences ≠ [])
    (hdiffer : cs.IsChain Candidate.Differs) : group (expand cs) = cs.map Candidate.group :=
  (runs_expand hplaces hdiffer).group_eq

/-- The groups of results are their runs: nothing is lost or moved, each group is of one entry and
named by its first result, and neighbours are of different entries; no other groups are like that.
Candidates that have occurrences and differ from their neighbours have one group each, with all
their occurrences in order. -/
theorem group_divides_into_runs :
    (∀ rs gs, group rs = gs ↔ Runs rs gs) ∧
    ∀ cs : List Candidate, (∀ c ∈ cs, c.entry.occurrences ≠ []) → cs.IsChain Candidate.Differs →
      group (expand cs) = cs.map fun c =>
        ⟨c.entry.key, c.entry.displayName, c.entry.occurrences.map c.result⟩ :=
  ⟨fun _ _ => group_eq_iff, fun _ hplaces hdiffer => group_expand hplaces hdiffer⟩

/-- Entries with one key in two shards, the first of them once more behind the other, and an
occurrence that is listed twice. -/
def twinCandidates : List Candidate :=
  [⟨⟨"get", "Get", [⟨"a.html", "A"⟩, ⟨"a.html", "A"⟩]⟩, "h00", (0, 0)⟩,
    ⟨⟨"get", "get", [⟨"b.html", ""⟩]⟩, "h01", (1, 0)⟩,
    ⟨⟨"get", "Get", [⟨"a.html", "A"⟩, ⟨"a.html", "A"⟩]⟩, "h00", (0, 0)⟩]

theorem group_divides_into_runs_twins :
    (∀ c ∈ twinCandidates, c.entry.occurrences ≠ []) ∧
      twinCandidates.IsChain Candidate.Differs ∧
      (group (expand twinCandidates)).map (·.results.length) = [2, 1, 2] ∧
      Runs (expand twinCandidates) (twinCandidates.map Candidate.group) := by
  have hplaces : ∀ c ∈ twinCandidates, c.entry.occurrences ≠ [] := by decide
  have hdiffer : twinCandidates.IsChain Candidate.Differs := by
    simp [twinCandidates, Candidate.Differs]
  have hgroup := group_divides_into_runs.2 _ hplaces hdiffer
  refine ⟨hplaces, hdiffer, ?_, (group_divides_into_runs.1 _ _).1 hgroup⟩
  rw [hgroup]
  decide

/-! ### Counts -/

theorem Candidate.result_injective (c : Candidate) : Function.Injective c.result := by
  rintro ⟨url, scope⟩ ⟨url', scope'⟩ h
  cases h
  rfl

theorem Candidate.count_results (c : Candidate) (o : Occurrence) :
    c.results.count (c.result o) = c.entry.occurrences.count o :=
  List.count_map_of_injective _ _ c.result_injective o

theorem not_mem_results {d : Candidate} (h : c.place ≠ d.place) (o : Occurrence) :
    c.result o ∉ d.results := fun hmem => h (place_of_mem_results hmem)

/-- Where no entry stands twice, each occurrence has as many results as it has places in the list of
its entry. -/
theorem count_expand (hnodup : (cs.map Candidate.place).Nodup) (hc : c ∈ cs) (o : Occurrence) :
    (expand cs).count (c.result o) = c.entry.occurrences.count o := by
  induction cs with
  | nil => cases hc
  | cons d cs ih =>
    rw [List.map_cons, List.nodup_cons] at hnodup
    rw [expand, List.flatMap_cons, ← expand, List.count_append]
    rcases List.mem_cons.1 hc with rfl | hc
    · have hrest : c.result o ∉ expand cs := by
        intro hmem
        obtain ⟨d, hd, hmem⟩ := List.mem_flatMap.1 hmem
        refine not_mem_results (fun heq => hnodup.1 ?_) o hmem
        exact heq ▸ List.mem_map_of_mem hd
      rw [Candidate.count_results, List.count_eq_zero.2 hrest, Nat.add_zero]
    · have hhead : c.result o ∉ d.results :=
        not_mem_results (fun heq => hnodup.1 (heq ▸ List.mem_map_of_mem hc)) o
      rw [List.count_eq_zero.2 hhead, Nat.zero_add, ih hnodup.2 hc]

theorem isChain_differs (hnodup : (cs.map Candidate.place).Nodup) :
    cs.IsChain Candidate.Differs := by
  rw [List.Nodup, List.pairwise_map] at hnodup
  exact (hnodup.imp fun h hsame => h (Prod.ext hsame.2 hsame.1)).isChain

/-! ### Limits -/

theorem length_cut {α : Type} (n : Int) (l : List α) :
    (cut (some n) l).length = min (max 1 n.toNat) l.length := List.length_take

theorem cut_sublist {α : Type} (limit : Option Int) (l : List α) : (cut limit l).Sublist l := by
  cases limit with
  | none => exact .refl l
  | some n => exact List.take_sublist _ _

/-- The results of the first entries, up to a limit. -/
def cutEntries (limit : Option Int) (rs : List Result) : List Result :=
  (cut limit (group rs)).flatMap (·.results)

theorem cutEntries_expand (limit : Option Int) (hplaces : ∀ c ∈ cs, c.entry.occurrences ≠ [])
    (hdiffer : cs.IsChain Candidate.Differs) :
    cutEntries limit (expand cs) = expand (cut limit cs) := by
  rw [cutEntries, group_expand hplaces hdiffer, ← map_cut, List.flatMap_map]
  rfl

end SymbolIndex.Match
