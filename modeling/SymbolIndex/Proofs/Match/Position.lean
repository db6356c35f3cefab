import Mathlib.Data.List.Infix
import Mathlib.Data.Nat.Find
import SymbolIndex.Match.Basic

/-!
# Where a query stands

`position` finds the first place at which a query stands in a key (`position_eq_some_iff`), and a
key that a longer query matches is matched by every beginning of it, no further behind. So filtering
the matches of a query is as good as filtering all candidates (`filter_filter`).
-/

namespace SymbolIndex.Match

variable {mode : MatchMode} {q q' : List Char} {query key : String}

/-- `q` stands in `s` at `n` and at no smaller place. -/
def FirstAt (q s : List Char) (n : Nat) : Prop := q <+: s.drop n ∧ ∀ m < n, ¬ q <+: s.drop m

theorem FirstAt.unique {s : List Char} {m n : Nat} (h : FirstAt q s m) (h' : FirstAt q s n) :
    m = n := by
  rcases Nat.lt_trichotomy m n with hlt | heq | hlt
  · exact absurd h.1 (h'.2 m hlt)
  · exact heq
  · exact absurd h'.1 (h.2 n hlt)

theorem firstAt_zero {s : List Char} : FirstAt q s 0 ↔ q <+: s := by
  simp [FirstAt]

theorem firstAt_succ {c : Char} {s : List Char} {n : Nat} (h : ¬ q <+: c :: s) :
    FirstAt q (c :: s) (n + 1) ↔ FirstAt q s n := by
  unfold FirstAt
  rw [List.drop_succ_cons]
  refine and_congr_right fun _ => ⟨fun hm m hlt => hm (m + 1) (by omega), fun hm m hlt => ?_⟩
  cases m with
  | zero => exact h
  | succ m => exact hm m (by omega)

theorem findFrom_eq_map (q : List Char) (offset : Nat) (s : List Char) :
    findFrom q offset s = (findFrom q 0 s).map (offset + ·) := by
  induction s generalizing offset with
  | nil => rw [findFrom, findFrom]; split <;> rfl
  | cons c s ih =>
    rw [findFrom, findFrom]
    split
    · rfl
    · rw [ih (offset + 1), ih (0 + 1), Option.map_map]
      congr 1
      funext n
      simp only [Function.comp]
      omega

theorem findFrom_eq_some_iff {s : List Char} {n : Nat} (hq : q ≠ []) :
    findFrom q 0 s = some n ↔ FirstAt q s n := by
  induction s generalizing n with
  | nil => simp [findFrom, FirstAt, hq]
  | cons c s ih =>
    rw [findFrom]
    split
    · rename_i hp
      have h0 : FirstAt q (c :: s) 0 := firstAt_zero.2 (List.isPrefixOf_iff_prefix.1 hp)
      constructor
      · intro h
        cases h
        exact h0
      · intro h
        rw [h.unique h0]
    · rename_i hp
      rw [List.isPrefixOf_iff_prefix] at hp
      rw [findFrom_eq_map, Option.map_eq_some_iff]
      constructor
      · rintro ⟨m, hm, rfl⟩
        rw [Nat.zero_add, Nat.add_comm]
        exact (firstAt_succ hp).2 (ih.1 hm)
      · intro h
        cases n with
        | zero => exact absurd (firstAt_zero.1 h) hp
        | succ n => exact ⟨n, ih.2 ((firstAt_succ hp).1 h), by omega⟩

/-- An infix stands somewhere first. -/
theorem exists_firstAt {s : List Char} : q <:+: s ↔ ∃ n, FirstAt q s n := by
  constructor
  · rintro ⟨before, rest, rfl⟩
    have hex : ∃ n, q <+: (before ++ q ++ rest).drop n :=
      ⟨before.length, rest, by simp⟩
    exact ⟨Nat.find hex, Nat.find_spec hex, fun m hm => Nat.find_min hex hm⟩
  · rintro ⟨n, h, _⟩
    exact h.isInfix.trans (List.drop_suffix n s).isInfix

/-- A query that matches a key: it stands in it, or the key begins with it. -/
def Matches : MatchMode → (query key : String) → Prop
  | .anywhere, query, key => query.toList <:+: key.toList
  | .start, query, key => query.toList <+: key.toList

/-- The place at which a query is found is the first, and 0 when keys have to begin with it. -/
theorem position_eq_some_iff {n : Nat} (hq : query ≠ "") :
    position mode query key = some n ↔
      Matches mode query key ∧ FirstAt query.toList key.toList n := by
  have hq' : query.toList ≠ [] := by simpa using hq
  unfold position
  rw [if_neg hq]
  cases mode with
  | anywhere =>
    simp only [findFrom_eq_some_iff hq', Matches]
    exact ⟨fun h => ⟨exists_firstAt.2 ⟨n, h⟩, h⟩, And.right⟩
  | start =>
    simp only [List.isPrefixOf_iff_prefix, Matches]
    constructor
    · intro h
      split at h
      · rename_i hp
        cases h
        exact ⟨hp, firstAt_zero.2 hp⟩
      · cases h
    · rintro ⟨hp, hn⟩
      rw [if_pos hp, hn.unique (firstAt_zero.2 hp)]

theorem isSome_position_iff (hq : query ≠ "") :
    (position mode query key).isSome ↔ Matches mode query key := by
  rw [Option.isSome_iff_exists]
  simp only [position_eq_some_iff hq, exists_and_left]
  refine and_iff_left_of_imp fun h => exists_firstAt.1 ?_
  cases mode with
  | anywhere => exact h
  | start => exact List.IsPrefix.isInfix h

theorem Matches.of_prefix {query' : String} (h : Matches mode query' key)
    (hp : query.toList <+: query'.toList) : Matches mode query key := by
  cases mode with
  | anywhere => exact hp.isInfix.trans h
  | start => exact hp.trans h

/-! ### Filtering -/

theorem mem_filter {c : Candidate} {cs : List Candidate} (hq : query ≠ "") :
    c ∈ filter mode query cs ↔ c ∈ cs ∧ Matches mode query c.entry.key := by
  rw [filter, List.mem_filter, isSome_position_iff hq]

/-- The matches of a longer query are found among those of its beginning. -/
theorem filter_filter {query' : String} (hq : query ≠ "") (hq' : query' ≠ "")
    (hp : query.toList <+: query'.toList) (cs : List Candidate) :
    filter mode query' (filter mode query cs) = filter mode query' cs := by
  rw [filter, filter, filter, List.filter_filter]
  apply List.filter_congr
  intro c _
  rw [Bool.and_eq_left_iff_imp, isSome_position_iff hq', isSome_position_iff hq]
  exact fun h => h.of_prefix hp

/-! ### Longer queries -/

/-- What begins another text stands in a key no further behind than that text. -/
theorem FirstAt.le_of_begins {s : List Char} {m n : Nat} (h : FirstAt q s m)
    (h' : FirstAt q' s n) (hp : q <+: q') : m ≤ n := by
  by_contra hlt
  exact h.2 n (Nat.lt_of_not_le hlt) (hp.trans h'.1)

theorem position_of_prefix {query' : String} {n : Nat} (hq : query ≠ "") (hq' : query' ≠ "")
    (hp : query.toList <+: query'.toList) (h : position mode query' key = some n) :
    ∃ m ≤ n, position mode query key = some m := by
  obtain ⟨hmatches, hfirst⟩ := (position_eq_some_iff hq').1 h
  have hsome : (position mode query key).isSome :=
    (isSome_position_iff hq).2 (hmatches.of_prefix hp)
  obtain ⟨m, hm⟩ := Option.isSome_iff_exists.1 hsome
  exact ⟨m, ((position_eq_some_iff hq).1 hm).2.le_of_begins hfirst hp, hm⟩

/-- A query that stands first at a place matches, unless keys have to begin with it and the place
is behind their beginning. -/
theorem matches_iff_of_firstAt {n : Nat} (h : FirstAt query.toList key.toList n) :
    Matches mode query key ↔ (mode = .start → n = 0) := by
  cases mode with
  | anywhere => exact iff_of_true (exists_firstAt.2 ⟨n, h⟩) nofun
  | start =>
    rw [Matches, ← firstAt_zero]
    exact ⟨fun h0 _ => h.unique h0, fun hn => hn rfl ▸ h⟩

theorem position_eq_none_iff (hq : query ≠ "") :
    position mode query key = none ↔
      ¬ ∃ n, query.toList <+: key.toList.drop n ∧ (mode = .start → n = 0) := by
  rw [← Option.not_isSome_iff_eq_none, isSome_position_iff hq]
  refine not_congr ?_
  cases mode with
  | anywhere =>
    constructor
    · intro h
      obtain ⟨n, hn, -⟩ := exists_firstAt.1 h
      exact ⟨n, hn, nofun⟩
    · rintro ⟨n, hn, -⟩
      exact hn.isInfix.trans (List.drop_suffix n _).isInfix
  | start => exact ⟨fun h => ⟨0, h, fun _ => rfl⟩, fun ⟨n, h, hn⟩ => by rwa [hn rfl] at h⟩

/-- A query is found at the first place at which it stands, which has to be the beginning if keys
have to begin with it, and it is not found if there is no such place. A longer query is found no
further in front, so what it matches is found among the matches of its beginning. -/
theorem position_first_and_monotone (hq : query ≠ "") (mode : MatchMode) :
    (∀ key n, position mode query key = some n ↔
      FirstAt query.toList key.toList n ∧ (mode = .start → n = 0)) ∧
    (∀ key, position mode query key = none ↔
      ¬ ∃ n, query.toList <+: key.toList.drop n ∧ (mode = .start → n = 0)) ∧
    ∀ rest : String,
      (∀ key n, position mode (query ++ rest) key = some n →
        ∃ m ≤ n, position mode query key = some m) ∧
      ∀ cs, filter mode (query ++ rest) (filter mode query cs) = filter mode (query ++ rest) cs := by
  refine ⟨fun key n => ?_, fun key => position_eq_none_iff hq, fun rest => ?_⟩
  · rw [position_eq_some_iff hq, and_comm]
    exact and_congr_right matches_iff_of_firstAt
  · have hp : query.toList <+: (query ++ rest).toList := by
      rw [String.toList_append]
      exact List.prefix_append _ _
    have hq' : query ++ rest ≠ "" := by
      simp [hq]
    exact ⟨fun key n => position_of_prefix hq hq' hp, filter_filter hq hq' hp⟩

/-- A query that overlaps itself stands in a key twice, and the longer one only at the second of
these places, or not at all if the key has to begin with it. -/
theorem position_first_and_monotone_overlap :
    "aa" ≠ "" ∧ position .anywhere "aa" "aaab" = some 0 ∧
      position .anywhere ("aa" ++ "b") "aaab" = some 1 ∧
      (∃ m ≤ 1, position .anywhere "aa" "aaab" = some m) ∧
      ¬ ∃ n, "aab".toList <+: "aaab".toList.drop n ∧ (MatchMode.start = .start → n = 0) := by
  have hlonger : position .anywhere ("aa" ++ "b") "aaab" = some 1 := by decide
  obtain ⟨-, -, hmonotone⟩ := @position_first_and_monotone "aa" (by decide) .anywhere
  obtain ⟨-, hnone, -⟩ := @position_first_and_monotone "aab" (by decide) .start
  exact ⟨by decide, by decide, hlonger, (hmonotone "b").1 _ _ hlonger, (hnone _).1 (by decide)⟩

end SymbolIndex.Match
