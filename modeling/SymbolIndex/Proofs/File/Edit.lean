import SymbolIndex.Proofs.File.Disk

/-!
# Edits

`Edited places` says that files at some places were written or removed and that nothing else
happened, and `Removed places` that they were only removed. Directories are the same before and
after, so paths lead to the same places, and a path that can be written to (`Takes`) still can.
-/

namespace SymbolIndex.File

open SymbolIndex.Effect

variable {d d' d'' : Disk} {p : Path} {l : Location} {content : List UInt8}
  {places others : List Location}

structure Edited (places : List Location) (d d' : Disk) : Prop where
  cwd : d'.cwd = d.cwd
  directory : ∀ l, d'.tree.find? l = some .directory ↔ d.tree.find? l = some .directory
  frame : ∀ l, l ∉ places → d'.tree.find? l = d.tree.find? l
  obstacles : d'.obstacles = d.obstacles

theorem Edited.refl (places : List Location) (d : Disk) : Edited places d d :=
  ⟨rfl, fun _ => .rfl, fun _ _ => rfl, rfl⟩

theorem Edited.mono (h : Edited places d d') (hp : places ⊆ others) : Edited others d d' :=
  ⟨h.cwd, h.directory, fun l hl => h.frame l fun hl' => hl (hp hl'), h.obstacles⟩

theorem Edited.trans (h : Edited places d d') (h' : Edited others d' d'') :
    Edited (places ++ others) d d'' := by
  refine ⟨h'.cwd.trans h.cwd, fun l => (h'.directory l).trans (h.directory l), fun l hl => ?_,
    h'.obstacles.trans h.obstacles⟩
  rw [List.mem_append, not_or] at hl
  exact (h'.frame l hl.2).trans (h.frame l hl.1)

theorem Edited.kept (h : Edited places d d') : Kept d d' :=
  ⟨h.cwd, fun l hl => (h.directory l).2 hl, h.obstacles⟩

theorem Edited.symm (h : Edited places d d') : Edited places d' d :=
  ⟨h.cwd.symm, fun l => (h.directory l).symm, fun l hl => (h.frame l hl).symm,
    h.obstacles.symm⟩

theorem edited_withFile (h : d.tree.find? l ≠ some .directory) :
    Edited [l] d (d.withFile l content) := by
  have hl := ne_nil_of_not_directory h
  refine ⟨rfl, fun m => ?_, fun m hm => find?_withFile_of_ne (List.mem_singleton.not.1 hm), rfl⟩
  by_cases hm : m = l
  · subst hm
    rw [find?_withFile_self hl]
    exact ⟨nofun, fun hdir => absurd hdir h⟩
  · rw [find?_withFile_of_ne hm]

theorem find?_without_self (h : l ≠ []) : (d.without l).tree.find? l = none :=
  Tree.find?_erase_self _ h

theorem find?_without_of_ne {m : Location} (h : m ≠ l) :
    (d.without l).tree.find? m = d.tree.find? m := Tree.find?_erase_of_ne _ h

theorem edited_without (h : d.tree.find? l ≠ some .directory) : Edited [l] d (d.without l) := by
  have hl := ne_nil_of_not_directory h
  refine ⟨rfl, fun m => ?_, fun m hm => find?_without_of_ne (List.mem_singleton.not.1 hm), rfl⟩
  by_cases hm : m = l
  · subst hm
    rw [find?_without_self hl]
    exact ⟨nofun, fun hdir => absurd hdir h⟩
  · rw [find?_without_of_ne hm]

/-- Files at some places were removed and nothing else happened. -/
structure Removed (places : List Location) (d d' : Disk) : Prop extends Edited places d d' where
  only : ∀ l, d'.tree.find? l = d.tree.find? l ∨ d'.tree.find? l = none

theorem Removed.refl (places : List Location) (d : Disk) : Removed places d d :=
  ⟨.refl places d, fun _ => .inl rfl⟩

theorem Removed.trans (h : Removed places d d') (h' : Removed others d' d'') :
    Removed (places ++ others) d d'' := by
  refine ⟨h.toEdited.trans h'.toEdited, fun l => ?_⟩
  rcases h'.only l with hl | hl
  · rw [hl]
    exact h.only l
  · exact .inr hl

/-- What is missing stays missing. -/
theorem Removed.find?_eq_none (h : Removed places d d') (hl : d.tree.find? l = none) :
    d'.tree.find? l = none := by
  rcases h.only l with hl' | hl'
  · rw [hl', hl]
  · exact hl'

theorem removed_without (h : d.tree.find? l ≠ some .directory) : Removed [l] d (d.without l) := by
  refine ⟨edited_without h, fun m => ?_⟩
  by_cases hm : m = l
  · subst hm
    exact .inr (find?_without_self (ne_nil_of_not_directory h))
  · exact .inl (find?_without_of_ne hm)

/-! ### Paths that can be written to -/

/-- A path leads to a place in a directory, and no directory stands there. -/
def Reaches (d : Disk) (p : Path) : Prop :=
  p.hasNull = false ∧ ∃ l, d.locate p = .ok l ∧ d.tree.find? l ≠ some .directory

/-- A path leads to a place where files can be written and removed. -/
def Takes (d : Disk) (p : Path) : Prop :=
  p.hasNull = false ∧
    ∃ l, d.locate p = .ok l ∧ d.tree.find? l ≠ some .directory ∧ d.obstacle? l = none

theorem Takes.reaches (h : Takes d p) : Reaches d p := by
  obtain ⟨hn, l, hl, hdir, _⟩ := h
  exact ⟨hn, l, hl, hdir⟩

theorem Reaches.of_edited (h : Reaches d p) (he : Edited places d d') : Reaches d' p := by
  obtain ⟨hn, l, hl, hdir⟩ := h
  exact ⟨hn, l, he.kept.locate hl, fun hd => hdir ((he.directory l).1 hd)⟩

theorem Takes.of_edited (h : Takes d p) (he : Edited places d d') : Takes d' p := by
  obtain ⟨hn, l, hl, hdir, hfree⟩ := h
  refine ⟨hn, l, he.kept.locate hl, fun hd => hdir ((he.directory l).1 hd), ?_⟩
  rwa [he.kept.obstacle?]

theorem Takes.exists_gives_write (h : Takes d p) (content : List UInt8) :
    ∃ d', Gives (Effect.write p content) d ⟨⟩ d' := by
  obtain ⟨hn, l, hl, hdir, hfree⟩ := h
  refine ⟨_, gives_write.2 ⟨hn, l, hl, ⟨hdir, ?_, ?_⟩, rfl⟩⟩ <;> (rw [hfree]; nofun)

end SymbolIndex.File
