import Mathlib.Data.List.Basic
import Mathlib.Data.List.Nodup
import Mathlib.Data.Prod.Lex
import Mathlib.Data.String.Basic
import SymbolIndex.Proofs.Match.Position
import SymbolIndex.Proofs.Match.Selection

/-!
# Rank order

The order of rank is that of the rank keys, so it is total and transitive, and the ranked
candidates are sorted by it; a limit selects the first of them (`rank_eq`). `rank_sorts_and_selects`
says all that is true of ranking any candidates. Where no key occurs twice, the place of the query,
the length of the key and the key alone decide the order (`Before`), and what is ranked depends on
nothing else.
-/

namespace SymbolIndex.Match

variable {mode : MatchMode} {query : String} {cs cs' : List Candidate}

/-! ### The order of rank -/

/-- What decides rank, compared part by part: the place of the query, the length of the key, the
key by code point, and the place of the entry. -/
abbrev RankKey := Nat ×ₗ Nat ×ₗ String ×ₗ Int ×ₗ Int

/-- The rank key of a candidate with the query at a place in its key. -/
def Candidate.rankKeyAt (c : Candidate) (position : Nat) : RankKey :=
  toLex (position, toLex (c.entry.key.length, toLex (c.entry.key, toLex c.ordinal)))

def Hit.rankKey (h : Hit) : RankKey := h.candidate.rankKeyAt h.position

theorem Hit.le_iff {a b : Hit} : Hit.le a b = true ↔ a.rankKey ≤ b.rankKey := by
  simp [Hit.le, ordinalLe, Hit.rankKey, Candidate.rankKeyAt, Prod.Lex.toLex_le_toLex]

theorem Hit.le_trans (a b c : Hit) (hab : Hit.le a b = true) (hbc : Hit.le b c = true) :
    Hit.le a c = true := by
  rw [Hit.le_iff] at *
  exact hab.trans hbc

theorem Hit.le_total (a b : Hit) : (Hit.le a b || Hit.le b a) = true := by
  rw [Bool.or_eq_true, Hit.le_iff, Hit.le_iff]
  exact LinearOrder.le_total _ _

/-! ### Limits -/

/-- The first of a list up to a limit, which is at least one. -/
def cut {α : Type} (limit : Option Int) (l : List α) : List α :=
  match limit with
  | some n => l.take (max 1 n.toNat)
  | none => l

theorem map_cut {α β : Type} (f : α → β) (limit : Option Int) (l : List α) :
    (cut limit l).map f = cut limit (l.map f) := by
  cases limit with
  | none => rfl
  | some n => exact List.map_take

theorem mem_of_mem_cut {α : Type} {limit : Option Int} {l : List α} {a : α} (h : a ∈ cut limit l) :
    a ∈ l := by
  cases limit with
  | none => exact h
  | some n => exact List.mem_of_mem_take h

/-! ### Ranked candidates -/

/-- All matching candidates in rank order. -/
def ranked (mode : MatchMode) (query : String) (cs : List Candidate) : List Candidate :=
  ((hits mode query cs).mergeSort Hit.le).map (·.candidate)

theorem rank_eq (mode : MatchMode) (query : String) (limit : Option Int) (cs : List Candidate) :
    rank mode query limit cs = cut limit (ranked mode query cs) := by
  cases limit with
  | none => rfl
  | some n =>
    rw [rank, cut, ranked, ← List.map_take]
    exact congrArg _ (smallest_eq_take Hit.le_trans Hit.le_total _ _)

theorem map_candidate_hits (mode : MatchMode) (query : String) (cs : List Candidate) :
    (hits mode query cs).map (·.candidate) = filter mode query cs := by
  induction cs with
  | nil => rfl
  | cons c cs ih =>
    rw [filter, List.filter_cons, ← filter, ← ih, hits, List.filterMap_cons]
    cases position mode query c.entry.key <;> rfl

theorem ranked_perm (mode : MatchMode) (query : String) (cs : List Candidate) :
    (ranked mode query cs).Perm (filter mode query cs) := by
  rw [← map_candidate_hits]
  exact (List.mergeSort_perm _ _).map _

theorem candidate_mem_of_mem_hits {h : Hit} (hh : h ∈ hits mode query cs) : h.candidate ∈ cs := by
  obtain ⟨c, hc, hh⟩ := List.mem_filterMap.1 hh
  obtain ⟨n, -, rfl⟩ := Option.map_eq_some_iff.1 hh
  exact hc

theorem pairwise_mergeSort_hits (mode : MatchMode) (query : String) (cs : List Candidate) :
    ((hits mode query cs).mergeSort Hit.le).Pairwise fun a b => Hit.le a b = true :=
  List.pairwise_mergeSort Hit.le_trans Hit.le_total _

theorem position_of_mem_hits {h : Hit} (hh : h ∈ hits mode query cs) :
    position mode query h.candidate.entry.key = some h.position := by
  obtain ⟨c, _, hc⟩ := List.mem_filterMap.1 hh
  obtain ⟨n, hn, rfl⟩ := Option.map_eq_some_iff.1 hc
  exact hn

/-- `a` stands before `b` in the answer to a query: the query stands in its key at a smaller
place, or at the same one and the key is shorter, or as long and smaller. -/
def Before (query : String) (a b : Entry) : Prop :=
  ∃ m n, FirstAt query.toList a.key.toList m ∧ FirstAt query.toList b.key.toList n ∧
    (m < n ∨ m = n ∧ (a.key.length < b.key.length ∨
      a.key.length = b.key.length ∧ a.key < b.key))

theorem Before.not_symm {a b : Entry} (h : Before query a b) : ¬ Before query b a := by
  obtain ⟨m, n, hm, hn, hab⟩ := h
  rintro ⟨n', m', hn', hm', hba⟩
  obtain rfl := hm.unique hm'
  obtain rfl := hn.unique hn'
  rcases hab with hab | ⟨rfl, hab | ⟨_, hab⟩⟩ <;> rcases hba with hba | ⟨_, hba | ⟨_, hba⟩⟩
  all_goals first | omega | exact String.lt_asymm hab hba

theorem Before.key_ne {a b : Entry} (h : Before query a b) : a.key ≠ b.key := by
  intro hkey
  obtain ⟨m, n, hm, hn, hab⟩ := h
  rw [hkey] at hm hab
  obtain rfl := hm.unique hn
  rcases hab with hab | ⟨_, hab | ⟨_, hab⟩⟩
  · exact Nat.lt_irrefl m hab
  · exact Nat.lt_irrefl _ hab
  · exact String.lt_irrefl _ hab

theorem before_of_le {a b : Hit} (hq : query ≠ "") (ha : a ∈ hits mode query cs)
    (hb : b ∈ hits mode query cs) (hle : Hit.le a b = true)
    (hne : a.candidate.entry.key ≠ b.candidate.entry.key) :
    Before query a.candidate.entry b.candidate.entry := by
  have hm := ((position_eq_some_iff hq).1 (position_of_mem_hits ha)).2
  have hn := ((position_eq_some_iff hq).1 (position_of_mem_hits hb)).2
  refine ⟨_, _, hm, hn, ?_⟩
  rw [Hit.le_iff] at hle
  simpa [Hit.rankKey, Candidate.rankKeyAt, Prod.Lex.toLex_le_toLex, hne] using hle

/-- Where no key occurs twice, the ranked entries stand in strict order. -/
theorem pairwise_before_ranked (hq : query ≠ "") (hn : (cs.map (·.entry.key)).Nodup) :
    ((ranked mode query cs).map (·.entry)).Pairwise (Before query) := by
  have hle := pairwise_mergeSort_hits mode query cs
  have hsub : ((filter mode query cs).map (·.entry.key)).Sublist (cs.map (·.entry.key)) :=
    List.filter_sublist.map _
  have hkeys : ((ranked mode query cs).map (·.entry.key)).Nodup :=
    ((ranked_perm mode query cs).map _).nodup_iff.2 (hn.sublist hsub)
  rw [ranked, List.map_map, List.Nodup, List.pairwise_map] at hkeys
  rw [ranked, List.map_map, List.pairwise_map]
  refine (hle.and hkeys).imp_of_mem fun {a b} ha hb hab => ?_
  exact before_of_le hq (List.mem_mergeSort.1 ha) (List.mem_mergeSort.1 hb) hab.1 hab.2

/-! ### What ranking does to any candidates -/

/-- The rank key of a candidate that a query matches. -/
def rankKey (mode : MatchMode) (query : String) (c : Candidate) : RankKey :=
  c.rankKeyAt ((position mode query c.entry.key).getD 0)

theorem rankKey_of_mem_hits {h : Hit} (hh : h ∈ hits mode query cs) :
    rankKey mode query h.candidate = h.rankKey := by
  rw [rankKey, position_of_mem_hits hh, Option.getD_some, Hit.rankKey]

theorem pairwise_rankKey_ranked (mode : MatchMode) (query : String) (cs : List Candidate) :
    (ranked mode query cs).Pairwise fun a b => rankKey mode query a ≤ rankKey mode query b := by
  rw [ranked, List.pairwise_map]
  refine (pairwise_mergeSort_hits mode query cs).imp_of_mem fun {a b} ha hb hab => ?_
  rw [rankKey_of_mem_hits (List.mem_mergeSort.1 ha), rankKey_of_mem_hits (List.mem_mergeSort.1 hb)]
  exact Hit.le_iff.1 hab

/-- Candidates with one rank key keep their order. -/
theorem filter_rankKey_ranked (k : RankKey) :
    (ranked mode query cs).filter (fun c => rankKey mode query c = k) =
      (filter mode query cs).filter fun c => rankKey mode query c = k := by
  have hties : ((hits mode query cs).filter fun h => rankKey mode query h.candidate = k).Pairwise
      fun a b => Hit.le a b := by
    refine List.pairwise_of_forall_mem_list fun a ha b hb => ?_
    obtain ⟨ha, hak⟩ := List.mem_filter.1 ha
    obtain ⟨hb, hbk⟩ := List.mem_filter.1 hb
    rw [decide_eq_true_eq, rankKey_of_mem_hits ha] at hak
    rw [decide_eq_true_eq, rankKey_of_mem_hits hb] at hbk
    rw [Hit.le_iff, hak, hbk]
  rw [ranked, ← map_candidate_hits, List.filter_map, List.filter_map]
  exact congrArg _ (filter_mergeSort Hit.le_trans Hit.le_total hties)

theorem hits_filter (mode : MatchMode) (query : String) (cs : List Candidate) :
    hits mode query (filter mode query cs) = hits mode query cs := by
  rw [hits, hits, filter, List.filterMap_filter]
  refine List.filterMap_congr fun c _ => ?_
  cases position mode query c.entry.key <;> rfl

/-- Where no two candidates have one place, their order does not matter. -/
theorem ranked_of_perm (h : cs.Perm cs') (hplaces : (cs.map (·.ordinal)).Nodup) :
    ranked mode query cs = ranked mode query cs' := by
  have hhits : (hits mode query cs).Perm (hits mode query cs') := h.filterMap _
  rw [ranked, ranked]
  congr 1
  refine List.Perm.eq_of_pairwise ?_ (pairwise_mergeSort_hits mode query cs)
    (pairwise_mergeSort_hits mode query cs')
    ((List.mergeSort_perm _ _).trans (hhits.trans (List.mergeSort_perm _ _).symm))
  intro a b ha hb hab hba
  have ha := List.mem_mergeSort.1 ha
  have hb := hhits.mem_iff.2 (List.mem_mergeSort.1 hb)
  have hkeys := le_antisymm (Hit.le_iff.1 hab) (Hit.le_iff.1 hba)
  obtain ⟨hposition, -, -, hordinal⟩ : a.position = b.position ∧ _ ∧ _ ∧
      a.candidate.ordinal = b.candidate.ordinal := by
    simpa [Hit.rankKey, Candidate.rankKeyAt] using hkeys
  have hcandidate := List.inj_on_of_nodup_map hplaces (candidate_mem_of_mem_hits ha)
    (candidate_mem_of_mem_hits hb) hordinal
  cases a
  cases b
  simp_all

/-- Ranking without a limit sorts the matching candidates by rank key, those with one rank key in
the order given; with a limit it selects the first of them, at least one. Candidates that do not
match are as good as absent, and where no two candidates have one place, the order in which they
are given does not matter. -/
theorem rank_sorts_and_selects (mode : MatchMode) (query : String) (cs : List Candidate) :
    let all := rank mode query none cs
    all.Perm (filter mode query cs) ∧
    (all.Pairwise fun a b => rankKey mode query a ≤ rankKey mode query b) ∧
    (∀ k, (all.filter fun c => rankKey mode query c = k) =
      (filter mode query cs).filter fun c => rankKey mode query c = k) ∧
    (∀ n : Int, rank mode query (some n) cs = all.take (max 1 n).toNat) ∧
    (∀ limit, rank mode query limit (filter mode query cs) = rank mode query limit cs) ∧
    ∀ cs', cs.Perm cs' → (cs.map (·.ordinal)).Nodup →
      ∀ limit, rank mode query limit cs' = rank mode query limit cs := by
  refine ⟨ranked_perm mode query cs, pairwise_rankKey_ranked mode query cs,
    fun k => filter_rankKey_ranked k, fun n => ?_, fun limit => ?_,
    fun cs' hperm hplaces limit => ?_⟩
  · rw [rank_eq, rank_eq, cut, cut, show (max 1 n).toNat = max 1 n.toNat by omega]
  · rw [rank_eq, rank_eq, ranked, ranked, hits_filter]
  · rw [rank_eq, rank_eq, ranked_of_perm hperm hplaces]

/-- Two entries of one key, a longer key in which the query stands later, and a key without it. -/
def printCandidates : List Candidate :=
  [⟨⟨"sprintf", "sprintf", [⟨"s.html", ""⟩]⟩, "s", (18, 0)⟩,
    ⟨⟨"printf", "Printf", [⟨"b.html", ""⟩]⟩, "b", (1, 0)⟩,
    ⟨⟨"printf", "printf", [⟨"a.html", ""⟩]⟩, "a", (0, 2)⟩,
    ⟨⟨"puts", "puts", [⟨"p.html", ""⟩]⟩, "p", (15, 0)⟩]

theorem rank_sorts_and_selects_print :
    (printCandidates.map (·.ordinal)).Nodup ∧
    printCandidates.Perm printCandidates.reverse ∧
    (∀ limit, rank .anywhere "rint" limit printCandidates.reverse =
      rank .anywhere "rint" limit printCandidates) ∧
    (rank .anywhere "rint" (some 2) printCandidates).map (·.shardId) = ["a", "b"] ∧
    (rank .anywhere "rint" none printCandidates).take 1 =
      rank .anywhere "rint" (some (-3)) printCandidates.reverse := by
  have hplaces : (printCandidates.map (·.ordinal)).Nodup := by decide
  have hperm : printCandidates.Perm printCandidates.reverse := (List.reverse_perm _).symm
  obtain ⟨-, -, -, hlimit, -, horder⟩ := rank_sorts_and_selects .anywhere "rint" printCandidates
  refine ⟨hplaces, hperm, horder _ hperm hplaces, by decide +kernel, ?_⟩
  rw [horder _ hperm hplaces]
  exact (hlimit (-3)).symm

end SymbolIndex.Match
