import Mathlib.Data.List.Infix
import Mathlib.Data.List.Induction
import SymbolIndex.File.Disk
import SymbolIndex.Proofs.Effect
import SymbolIndex.Proofs.Except

/-!
# Places on a disk

What the operations on a disk do when they succeed, and what writes and removals leave when they
fail. A path leads to the place that it resolves to (`Rooted.locate`), and a place that has been
reached once can be reached from the top, now and as long as directories stay (`Kept`).
-/

namespace SymbolIndex.File

open SymbolIndex.Effect

variable {d d' d'' : Disk} {p : Path} {l here : Location} {name : String} {content : List UInt8}

/-! ### Operations -/

theorem gives_locate :
    Gives (Effect.locate p) d l d' ↔ p.hasNull = false ∧ d.locate p = .ok l ∧ d = d' := by
  unfold Effect.locate
  simp only
  rw [gives_unless, gives_bind]
  apply and_congr_right
  intro _
  simp only [gives_get]
  constructor
  · rintro ⟨_, _, ⟨rfl, rfl⟩, h⟩
    split at h
    · rename_i l' hl
      obtain ⟨rfl, rfl⟩ := gives_pure.1 h
      exact ⟨hl, rfl⟩
    · exact absurd h not_gives_throw
  · rintro ⟨hl, rfl⟩
    refine ⟨d, d, ⟨rfl, rfl⟩, ?_⟩
    rw [hl]
    exact gives_pure.2 ⟨rfl, rfl⟩

theorem gives_read :
    Gives (Effect.read p) d content d' ↔ p.hasNull = false ∧ d = d' ∧
      ∃ l, d.locate p = .ok l ∧ d.tree.find? l = some (.file content) := by
  unfold Effect.read Effect.node?
  simp only [gives_bind, gives_locate, gives_get, gives_pure]
  constructor
  · rintro ⟨_, _, ⟨l, _, ⟨hn, hl, rfl⟩, _, _, ⟨rfl, rfl⟩, rfl, rfl⟩, h⟩
    split at h
    · rename_i c hc
      obtain ⟨rfl, rfl⟩ := gives_pure.1 h
      exact ⟨hn, rfl, l, hl, hc⟩
    · exact absurd h not_gives_throw
    · exact absurd h not_gives_throw
  · rintro ⟨hn, rfl, l, hl, hc⟩
    refine ⟨_, d, ⟨l, d, ⟨hn, hl, rfl⟩, d, d, ⟨rfl, rfl⟩, rfl, rfl⟩, ?_⟩
    rw [hc]
    exact gives_pure.2 ⟨rfl, rfl⟩

/-- The disk with a file at a place. -/
def Disk.withFile (d : Disk) (l : Location) (content : List UInt8) : Disk :=
  { d with tree := d.tree.insert l (.file content) }

/-- The file at a place can be given a content. -/
structure Disk.Admits (d : Disk) (l : Location) (content : List UInt8) : Prop where
  file : d.tree.find? l ≠ some .directory
  unlocked : d.obstacle? l ≠ some .locked
  room : ∀ bytes, d.obstacle? l = some (.room bytes) → content.length ≤ bytes

theorem gives_write {u : Unit} :
    Gives (Effect.write p content) d u d' ↔ p.hasNull = false ∧ ∃ l, d.locate p = .ok l ∧
      d.Admits l content ∧ d' = d.withFile l content := by
  unfold Effect.write
  simp only [gives_bind, gives_locate, gives_get]
  constructor
  · rintro ⟨l, _, ⟨hn, hl, rfl⟩, _, _, ⟨rfl, rfl⟩, h⟩
    refine ⟨hn, l, hl, ?_⟩
    split at h
    · exact absurd h not_gives_throw
    · exact absurd h not_gives_throw
    · rename_i bytes ho hdir
      obtain ⟨_, u, hset, h⟩ := gives_bind.1 h
      by_cases hroom : bytes < content.length
      · rw [if_pos hroom] at h
        exact absurd h not_gives_throw
      · rw [if_neg hroom] at h
        obtain ⟨_, rfl⟩ := gives_pure.1 h
        obtain rfl := gives_modify.1 hset
        have hroom := Nat.not_lt.1 hroom
        refine ⟨⟨fun hd => hdir hd, by rw [ho]; nofun, fun n hn => ?_⟩, ?_⟩
        · rw [ho] at hn
          cases hn
          exact hroom
        · rw [List.take_of_length_le hroom]
          rfl
    · rename_i ho hdir
      exact ⟨⟨fun hd => hdir hd, by rw [ho]; nofun, by rw [ho]; nofun⟩, (gives_modify.1 h).symm⟩
  · rintro ⟨hn, l, hl, hadmits, rfl⟩
    refine ⟨l, d, ⟨hn, hl, rfl⟩, d, d, ⟨rfl, rfl⟩, ?_⟩
    split
    · exact absurd ‹_› hadmits.file
    · exact absurd ‹_› hadmits.unlocked
    · rename_i bytes ho _
      have hroom := hadmits.room bytes ho
      rw [if_neg (Nat.not_lt.2 hroom), List.take_of_length_le hroom]
      exact gives_bind.2 ⟨⟨⟩, _, gives_modify.2 rfl, gives_pure.2 ⟨rfl, rfl⟩⟩
    · exact gives_modify.2 rfl

/-- The disk with nothing at a place. -/
def Disk.without (d : Disk) (l : Location) : Disk := { d with tree := d.tree.erase l }

theorem gives_remove {u : Unit} :
    Gives (Effect.remove p) d u d' ↔ p.hasNull = false ∧ ∃ l content, d.locate p = .ok l ∧
      d.tree.find? l = some (.file content) ∧ d.obstacle? l ≠ some .locked ∧
      d' = d.without l := by
  unfold Effect.remove
  simp only [gives_bind, gives_locate, gives_get]
  constructor
  · rintro ⟨l, _, ⟨hn, hl, rfl⟩, _, _, ⟨rfl, rfl⟩, h⟩
    split at h
    · exact absurd h not_gives_throw
    · rename_i content hc hlocked
      exact ⟨hn, l, content, hl, hc, fun ho => hlocked ho, (gives_modify.1 h).symm⟩
    · exact absurd h not_gives_throw
    · exact absurd h not_gives_throw
  · rintro ⟨hn, l, content, hl, hc, hlocked, rfl⟩
    refine ⟨l, d, ⟨hn, hl, rfl⟩, d, d, ⟨rfl, rfl⟩, ?_⟩
    rw [hc]
    split
    · exact absurd ‹_› hlocked
    · exact gives_modify.2 rfl
    · cases ‹some _ = some _›
    · cases ‹some _ = none›

theorem gives_doesExist {b : Bool} (h : Gives (Effect.doesExist p) d b d') :
    d = d' ∧ (b = true → ∃ l n, d.locate p = .ok l ∧ d.tree.find? l = some n) := by
  unfold Effect.doesExist at h
  split at h
  · obtain ⟨rfl, rfl⟩ := gives_pure.1 h
    exact ⟨rfl, nofun⟩
  · simp only [gives_bind, gives_get] at h
    obtain ⟨_, _, ⟨rfl, rfl⟩, h⟩ := h
    split at h
    · rename_i l hl
      obtain ⟨rfl, rfl⟩ := gives_pure.1 h
      exact ⟨rfl, fun hb => ⟨l, _, hl, (Option.some_get hb).symm⟩⟩
    · exact absurd h not_gives_throw
    · obtain ⟨rfl, rfl⟩ := gives_pure.1 h
      exact ⟨rfl, nofun⟩

/-- What is asked about a place that a path leads to. -/
theorem gives_doesExist_of_locate (hn : p.hasNull = false) (hl : d.locate p = .ok l) :
    Gives (Effect.doesExist p) d (d.tree.find? l).isSome d := by
  unfold Effect.doesExist
  rw [hn, if_neg Bool.false_ne_true]
  simp only [gives_bind, gives_get]
  refine ⟨d, d, ⟨rfl, rfl⟩, ?_⟩
  rw [hl]
  exact gives_pure.2 ⟨rfl, rfl⟩

/-! ### Operations that only look -/

/-- An operation leaves the disk as it is. -/
abbrev OnlyLooks {α : Type} (x : File.Effect α) : Prop := Always (fun d d' => d' = d) x

theorem chains_eq : Chains fun d d' : Disk => d' = d :=
  ⟨fun _ => rfl, fun _ _ _ h h' => h'.trans h⟩

theorem onlyLooks_locate (p : Path) : OnlyLooks (Effect.locate p) := by
  intro d
  unfold Effect.locate
  cases p.hasNull with
  | true => rfl
  | false =>
    show (outcome (get >>= fun d : Disk => _) d).2 = d
    rw [outcome_bind]
    show (outcome _ d).2 = d
    split <;> rfl

theorem onlyLooks_doesExist (p : Path) : OnlyLooks (Effect.doesExist p) := by
  intro d
  unfold Effect.doesExist
  cases p.hasNull with
  | true => rfl
  | false =>
    show (outcome (get >>= fun d : Disk => _) d).2 = d
    rw [outcome_bind]
    show (outcome _ d).2 = d
    split <;> rfl

theorem onlyLooks_read (p : Path) : OnlyLooks (Effect.read p) := by
  unfold Effect.read Effect.node?
  refine chains_eq.bind (chains_eq.bind (onlyLooks_locate p) fun l => ?_) fun n => ?_
  · exact chains_eq.bind chains_eq.get fun d => chains_eq.pure _
  · split
    · exact chains_eq.pure _
    · exact chains_eq.throw _
    · exact chains_eq.throw _

/-- A write that fails has not begun, or it left a first part of the content. -/
theorem cut_of_fails_write {e : Error} (h : Fails (Effect.write p content) d e d') :
    d' = d ∨ e = .deviceFull ∧ p.hasNull = false ∧ ∃ l bytes, d.locate p = .ok l ∧
      d.tree.find? l ≠ some .directory ∧ bytes < content.length ∧
      d' = d.withFile l (content.take bytes) := by
  unfold Effect.write at h
  rcases fails_bind.1 h with h | ⟨l, u, hl, h⟩
  · exact .inl ((onlyLooks_locate p).of_fails h)
  obtain ⟨hn, hplace, rfl⟩ := gives_locate.1 hl
  rcases fails_bind.1 h with h | ⟨_, _, hget, h⟩
  · exact .inl (chains_eq.get.of_fails h)
  obtain ⟨rfl, rfl⟩ := gives_get.1 hget
  split at h
  · exact .inl (fails_throw.1 h).2.symm
  · exact .inl (fails_throw.1 h).2.symm
  · rename_i bytes _ hdir
    rcases fails_bind.1 h with h | ⟨_, u, hset, h⟩
    · exact absurd h not_fails_modify
    obtain rfl := gives_modify.1 hset
    by_cases hroom : bytes < content.length
    · rw [if_pos hroom] at h
      obtain ⟨rfl, rfl⟩ := fails_throw.1 h
      exact .inr ⟨rfl, hn, l, bytes, hplace, fun hd => hdir hd, hroom, rfl⟩
    · rw [if_neg hroom] at h
      exact absurd h not_fails_pure
  · exact absurd h not_fails_modify

theorem eq_of_fails_remove {e : Error} (h : Fails (Effect.remove p) d e d') : d' = d := by
  unfold Effect.remove at h
  rcases fails_bind.1 h with h | ⟨l, u, hl, h⟩
  · exact (onlyLooks_locate p).of_fails h
  obtain ⟨_, _, rfl⟩ := gives_locate.1 hl
  rcases fails_bind.1 h with h | ⟨_, _, hget, h⟩
  · exact chains_eq.get.of_fails h
  obtain ⟨rfl, rfl⟩ := gives_get.1 hget
  split at h
  · exact (fails_throw.1 h).2.symm
  · exact absurd h not_fails_modify
  · exact (fails_throw.1 h).2.symm
  · exact (fails_throw.1 h).2.symm

/-- A file cannot be written where a directory stands. -/
theorem fails_write_of_directory (hn : p.hasNull = false) (hl : d.locate p = .ok l)
    (hdir : d.tree.find? l = some .directory) :
    Fails (Effect.write p content) d (.refused .isDirectory p.toString) d := by
  unfold Effect.write
  rw [fails_bind_of_gives (gives_locate.2 ⟨hn, hl, rfl⟩),
    fails_bind_of_gives (gives_get.2 ⟨rfl, rfl⟩), hdir]
  exact fails_throw.2 ⟨rfl, rfl⟩

/-! ### Places -/

/-- A place that a path from the top leads to: everything above it is a directory. -/
structure Standing (d : Disk) (l : Location) : Prop where
  names : ∀ name ∈ l, name ≠ ".." ∧ name.utf8ByteSize ≤ Disk.maxNameLength
  above : ∀ m, m <+: l → m ≠ l → d.tree.find? m = some .directory

theorem standing_nil (d : Disk) : Standing d [] where
  names _ h := nomatch h
  above _ hm hne := absurd (List.prefix_nil.1 hm) hne

/-- Where a name leads from a place, whether it exists or not. -/
def follow (here : Location) (name : String) : Location :=
  if name = ".." then here.dropLast else here ++ [name]

theorem resolve_eq (d : Disk) (p : Path) : d.resolve p = ⟨"/", p.names.foldl follow (d.origin p)⟩ :=
  rfl

theorem enter_eq_ok :
    d.enter here name = .ok l ↔ d.tree.find? here = some .directory ∧
      (name = ".." ∨ name.utf8ByteSize ≤ Disk.maxNameLength) ∧ l = follow here name := by
  unfold Disk.enter follow
  split
  · rename_i h; simp [h]
  · rename_i h; simp [h]
  · rename_i h
    by_cases hup : name = ".."
    · simp [h, hup, eq_comm]
    · by_cases hlen : Disk.maxNameLength < name.utf8ByteSize
      · simp [hup, hlen, Nat.not_le.2 hlen]
      · simp [h, hup, hlen, Nat.not_lt.1 hlen, eq_comm]

theorem Standing.enter (h : Standing d here) (he : d.enter here name = .ok l) : Standing d l := by
  obtain ⟨hdir, hname, rfl⟩ := enter_eq_ok.1 he
  have hall : ∀ m, m <+: here → d.tree.find? m = some .directory := by
    intro m hm
    by_cases heq : m = here
    · rwa [heq]
    · exact h.above m hm heq
  unfold follow
  split
  · refine ⟨fun n hn => h.names n (List.mem_of_mem_dropLast hn), fun m hm _ => ?_⟩
    exact hall m (hm.trans (List.dropLast_prefix here))
  · rename_i hup
    refine ⟨fun n hn => ?_, fun m hm hne => ?_⟩
    · rcases List.mem_append.1 hn with hn | hn
      · exact h.names n hn
      · rw [List.mem_singleton.1 hn]
        exact ⟨hup, hname.resolve_left hup⟩
    · exact hall m ((List.prefix_concat_iff.1 hm).resolve_left hne)

theorem foldlM_enter {names : List String} (h : Standing d here)
    (hl : names.foldlM d.enter here = .ok l) : Standing d l ∧ l = names.foldl follow here := by
  induction names generalizing here with
  | nil =>
    cases hl
    exact ⟨h, rfl⟩
  | cons name names ih =>
    rw [List.foldlM_cons] at hl
    obtain ⟨next, hnext, hl⟩ := bind_eq_ok.1 hl
    have hfollow := (enter_eq_ok.1 hnext).2.2
    rw [List.foldl_cons, ← hfollow]
    exact ih (h.enter hnext) hl

/-- A place is reached from the top by its own names. -/
theorem Standing.foldlM_enter_top (h : Standing d l) : l.foldlM d.enter [] = .ok l := by
  induction l using List.reverseRecOn with
  | nil => rfl
  | append_singleton l name ih =>
    have hne : l ≠ l ++ [name] := by simp
    have hl : Standing d l := by
      refine ⟨fun n hn => h.names n (List.mem_append_left _ hn), fun m hm _ => ?_⟩
      apply h.above m (hm.trans (List.prefix_append _ _))
      rintro rfl
      have hlen := hm.length_le
      rw [List.length_append, List.length_singleton] at hlen
      omega
    have hname := h.names name (List.mem_append_right _ List.mem_cons_self)
    rw [List.foldlM_append, ih hl]
    show (List.foldlM d.enter l [name]) = _
    rw [List.foldlM_cons]
    have henter : d.enter l name = .ok (l ++ [name]) := by
      refine enter_eq_ok.2 ⟨h.above l (List.prefix_append _ _) hne, .inr hname.2, ?_⟩
      rw [follow, if_neg hname.1]
    rw [henter]
    rfl

/-- The working directory, or the top, can be reached. -/
def Rooted (d : Disk) : Prop := Standing d d.cwd ∧ ∀ name ∈ d.cwd, '\x00' ∉ name.toList

theorem Rooted.standing_origin (h : Rooted d) (p : Path) : Standing d (d.origin p) := by
  unfold Disk.origin
  split
  · exact h.1
  · exact standing_nil d

/-- A path leads to the place that it resolves to. -/
theorem Rooted.locate (h : Rooted d) (hl : d.locate p = .ok l) :
    Standing d l ∧ d.resolve p = ⟨"/", l⟩ := by
  unfold Disk.locate at hl
  split at hl
  · cases hl
  · obtain ⟨hs, rfl⟩ := foldlM_enter (h.standing_origin p) hl
    exact ⟨hs, resolve_eq d p⟩

/-- The resolved path leads to the same place, if it is not too long. -/
theorem Rooted.locate_resolve (h : Rooted d) (hl : d.locate p = .ok l)
    (hlen : (d.resolve p).toString.utf8ByteSize ≤ Disk.maxPathLength) :
    d.locate (d.resolve p) = .ok l := by
  obtain ⟨hs, hr⟩ := h.locate hl
  rw [Disk.locate, if_neg (Nat.not_lt.2 hlen), hr]
  exact hs.foldlM_enter_top

/-- Resolving a path that leads somewhere once more changes nothing. -/
theorem Rooted.resolve_resolve (h : Rooted d) (hl : d.locate p = .ok l) :
    d.resolve (d.resolve p) = d.resolve p := by
  obtain ⟨hs, hr⟩ := h.locate hl
  have hfollow := (foldlM_enter (standing_nil d) hs.foldlM_enter_top).2
  rw [hr, resolve_eq]
  exact congrArg (Path.mk "/") hfollow.symm

/-! ### What stays -/

/-- Directories stay, and so do the working directory and what stands in the way of changes. -/
structure Kept (d d' : Disk) : Prop where
  cwd : d'.cwd = d.cwd
  directory : ∀ l, d.tree.find? l = some .directory → d'.tree.find? l = some .directory
  obstacles : d'.obstacles = d.obstacles

theorem Kept.refl (d : Disk) : Kept d d := ⟨rfl, fun _ h => h, rfl⟩

theorem Kept.trans (h : Kept d d') (h' : Kept d' d'') : Kept d d'' :=
  ⟨h'.cwd.trans h.cwd, fun l hl => h'.directory l (h.directory l hl),
    h'.obstacles.trans h.obstacles⟩

theorem Kept.obstacle? (h : Kept d d') (l : Location) : d'.obstacle? l = d.obstacle? l := by
  rw [Disk.obstacle?, h.obstacles, Disk.obstacle?]

theorem Kept.rooted (h : Kept d d') (hr : Rooted d) : Rooted d' := by
  unfold Rooted
  rw [h.cwd]
  exact ⟨⟨hr.1.names, fun m hm hne => h.directory m (hr.1.above m hm hne)⟩, hr.2⟩

theorem Kept.resolve (h : Kept d d') (p : Path) : d'.resolve p = d.resolve p := by
  rw [resolve_eq, resolve_eq, Disk.origin, Disk.origin, h.cwd]

theorem Kept.foldlM_enter {names : List String} (h : Kept d d')
    (hl : names.foldlM d.enter here = .ok l) : names.foldlM d'.enter here = .ok l := by
  induction names generalizing here with
  | nil => exact hl
  | cons name names ih =>
    rw [List.foldlM_cons] at hl ⊢
    obtain ⟨next, hnext, hl⟩ := bind_eq_ok.1 hl
    obtain ⟨hdir, hrest⟩ := enter_eq_ok.1 hnext
    exact bind_eq_ok.2 ⟨next, enter_eq_ok.2 ⟨h.directory _ hdir, hrest⟩, ih hl⟩

theorem Kept.locate (h : Kept d d') (hl : d.locate p = .ok l) : d'.locate p = .ok l := by
  unfold Disk.locate Disk.origin at *
  rw [h.cwd]
  split at hl
  · cases hl
  · rename_i hlen
    rw [if_neg hlen]
    exact h.foldlM_enter hl

theorem ne_nil_of_not_directory (h : d.tree.find? l ≠ some .directory) : l ≠ [] := by
  rintro rfl
  exact h rfl

theorem find?_withFile_self (h : l ≠ []) :
    (d.withFile l content).tree.find? l = some (.file content) := Tree.find?_insert_self _ h _

theorem find?_withFile_of_ne {m : Location} (h : m ≠ l) :
    (d.withFile l content).tree.find? m = d.tree.find? m := Tree.find?_insert_of_ne _ _ h

/-! ### Making directories -/

/-- Nothing happened but that directories were made where nothing was. -/
structure Grown (d d' : Disk) : Prop where
  cwd : d'.cwd = d.cwd
  node : ∀ l n, d.tree.find? l = some n → d'.tree.find? l = some n
  file : ∀ l content, d'.tree.find? l = some (.file content) →
    d.tree.find? l = some (.file content)
  obstacles : d'.obstacles = d.obstacles

theorem Grown.refl (d : Disk) : Grown d d := ⟨rfl, fun _ _ h => h, fun _ _ h => h, rfl⟩

theorem Grown.trans (h : Grown d d') (h' : Grown d' d'') : Grown d d'' :=
  ⟨h'.cwd.trans h.cwd, fun l n hn => h'.node l n (h.node l n hn),
    fun l c hc => h.file l c (h'.file l c hc), h'.obstacles.trans h.obstacles⟩

theorem chains_grown : Chains Grown := ⟨.refl, fun _ _ _ => .trans⟩

theorem Grown.kept (h : Grown d d') : Kept d d' :=
  ⟨h.cwd, fun l hl => h.node l _ hl, h.obstacles⟩

theorem grown_ensureDirectory (p : Path) (l : Location) :
    Always Grown (Effect.ensureDirectory p l) := by
  intro d
  unfold Effect.ensureDirectory
  rw [outcome_bind]
  show Grown d (outcome _ d).2
  split
  · exact .refl d
  · exact .refl d
  · rename_i hnone
    show Grown d { d with tree := d.tree.insert l .directory }
    have hl : l ≠ [] := ne_nil_of_not_directory (by rw [hnone]; nofun)
    refine ⟨rfl, fun m n hm => ?_, fun m c hm => ?_, rfl⟩
    · have hne : m ≠ l := by
        rintro rfl
        rw [hnone] at hm
        cases hm
      rwa [Tree.find?_insert_of_ne _ _ hne]
    · by_cases hne : m = l
      · subst hne
        rw [Tree.find?_insert_self _ hl] at hm
        cases hm
      · rwa [Tree.find?_insert_of_ne _ _ hne] at hm

theorem grown_makeDirectoriesAt (root : String) (names : List String) :
    Always Grown (Effect.makeDirectoriesAt root names) := by
  induction names with
  | nil => exact chains_grown.bind chains_grown.get fun d => chains_grown.pure _
  | cons name above ih =>
    unfold Effect.makeDirectoriesAt
    refine chains_grown.bind chains_grown.get fun d => ?_
    split
    · exact grown_ensureDirectory _ _
    · refine chains_grown.bind ih fun here => chains_grown.bind chains_grown.get fun d' => ?_
      split
      · exact grown_ensureDirectory _ _
      · exact chains_grown.throw _
    · exact chains_grown.throw _

/-- Whether it succeeds or not. -/
theorem grown_makeDirectories (p : Path) : Always Grown (Effect.makeDirectories p) := by
  have hrest : Always Grown do
      let _ ← Effect.makeDirectoriesAt p.root p.names.reverse
      return () :=
    chains_grown.bind (grown_makeDirectoriesAt _ _) fun _ => chains_grown.pure _
  unfold Effect.makeDirectories
  dsimp only
  split
  · exact chains_grown.bind (chains_grown.throw _) fun _ => hrest
  · exact hrest

theorem gives_makeDirectories (hn : p.hasNull = false)
    (hat : ∃ r, Gives (Effect.makeDirectoriesAt p.root p.names.reverse) d r d') :
    Gives (Effect.makeDirectories p) d ⟨⟩ d' := by
  obtain ⟨r, hat⟩ := hat
  unfold Effect.makeDirectories
  dsimp only
  rw [gives_unless, gives_bind]
  exact ⟨hn, r, d', hat, gives_pure.2 ⟨rfl, rfl⟩⟩

/-- There is nothing to make for a path without names. -/
theorem gives_makeDirectories_of_names_eq_nil (hn : p.hasNull = false) (hnames : p.names = []) :
    Gives (Effect.makeDirectories p) d ⟨⟩ d := by
  refine gives_makeDirectories hn ⟨d.origin ⟨p.root, []⟩, ?_⟩
  rw [hnames]
  exact gives_bind.2 ⟨d, d, gives_get.2 ⟨rfl, rfl⟩, gives_pure.2 ⟨rfl, rfl⟩⟩

/-- A directory that is there is left as it is. -/
theorem gives_makeDirectories_of_directory (hn : p.hasNull = false) (hl : d.locate p = .ok l)
    (hdir : d.tree.find? l = some .directory) : Gives (Effect.makeDirectories p) d ⟨⟩ d := by
  cases hnames : p.names.reverse with
  | nil => exact gives_makeDirectories_of_names_eq_nil hn (List.reverse_eq_nil_iff.1 hnames)
  | cons name above =>
    have hp : (⟨p.root, (name :: above).reverse⟩ : Path) = p := by
      rw [← hnames, List.reverse_reverse]
    refine gives_makeDirectories hn ⟨l, ?_⟩
    rw [hnames]
    refine gives_bind.2 ⟨d, d, gives_get.2 ⟨rfl, rfl⟩, ?_⟩
    rw [hp, hl]
    refine gives_bind.2 ⟨d, d, gives_get.2 ⟨rfl, rfl⟩, ?_⟩
    rw [hdir]
    exact gives_pure.2 ⟨rfl, rfl⟩

end SymbolIndex.File
