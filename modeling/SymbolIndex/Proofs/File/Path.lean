import SymbolIndex.Proofs.File.Disk

/-!
# Files of a directory

A name without slashes stands for one file of a directory (`child_of_plain`), and it does not
matter whether the directory is resolved before the name is put behind it or after.
-/

namespace SymbolIndex.File

/-- A name that a file of a directory can have. -/
structure PlainName (name : String) : Prop where
  slash : '/' ∉ name.toList
  empty : name ≠ ""
  here : name ≠ "."
  above : name ≠ ".."

theorem plainName_of_length {name : String} (hs : '/' ∉ name.toList)
    (hlen : 2 < name.toList.length) : PlainName name := by
  have hne : ∀ other : String, other.toList.length ≤ 2 → name ≠ other := by
    rintro other hshort rfl
    omega
  exact ⟨hs, hne "" (by decide), hne "." (by decide), hne ".." (by decide)⟩

namespace Path

theorem splitSlash_of_not_mem {part cs : List Char} (h : '/' ∉ cs) :
    splitSlash part cs = [part.reverse ++ cs] := by
  induction cs generalizing part with
  | nil => simp [splitSlash]
  | cons c cs ih =>
    have hc : c ≠ '/' := fun hc => h (hc ▸ List.mem_cons_self)
    rw [splitSlash, if_neg hc, ih fun hcs => h (List.mem_cons_of_mem _ hcs)]
    simp

theorem rootOf_of_not_mem {cs : List Char} (h : '/' ∉ cs) : rootOf cs = "" := by
  unfold rootOf
  split
  · exact absurd List.mem_cons_self h
  · exact absurd List.mem_cons_self h
  · exact absurd List.mem_cons_self h
  · rfl

variable {name : String}

theorem ofString_of_plain (h : PlainName name) : ofString name = ⟨"", [name]⟩ := by
  rw [ofString, rootOf_of_not_mem h.slash, splitSlash_of_not_mem h.slash]
  simp [h.empty, h.here]

theorem child_of_plain (p : Path) (h : PlainName name) :
    p.child name = ⟨p.root, p.names ++ [name]⟩ := by
  rw [child, ofString_of_plain h, join, if_pos rfl]

theorem resolve_child (d : Disk) (p : Path) (h : PlainName name) :
    d.resolve (p.child name) = ⟨"/", (d.resolve p).names ++ [name]⟩ := by
  rw [child_of_plain p h, resolve_eq, resolve_eq, List.foldl_concat, follow, if_neg h.above]
  rfl

theorem child_resolve (d : Disk) (p : Path) (h : PlainName name) :
    (d.resolve p).child name = d.resolve (p.child name) := by
  rw [resolve_child d p h, child_of_plain _ h, resolve_eq]

/-- A file of a directory that a path leads to. -/
theorem locate_child {d : Disk} {p : Path} {l : Location} (h : PlainName name)
    (hl : d.locate p = .ok l) (hdir : d.tree.find? l = some .directory)
    (hname : name.utf8ByteSize ≤ Disk.maxNameLength)
    (hpath : (p.child name).toString.utf8ByteSize ≤ Disk.maxPathLength) :
    d.locate (p.child name) = .ok (l ++ [name]) := by
  have hnames : p.names.foldlM d.enter (d.origin p) = .ok l := by
    unfold Disk.locate at hl
    split at hl
    · cases hl
    · exact hl
  have henter : d.enter l name = .ok (l ++ [name]) := by
    refine enter_eq_ok.2 ⟨hdir, .inr hname, ?_⟩
    rw [follow, if_neg h.above]
  rw [Disk.locate, if_neg (Nat.not_lt.2 hpath), child_of_plain p h]
  show (p.names ++ [name]).foldlM d.enter (d.origin p) = _
  rw [List.foldlM_append, hnames]
  show List.foldlM d.enter l [name] = _
  rw [List.foldlM_cons, henter]
  rfl

theorem parent_child (p : Path) (h : PlainName name) : (p.child name).parent = p := by
  rw [child_of_plain p h, parent, List.dropLast_concat]

/-- The text of the directory is not longer, unless it is the dot of the working directory. -/
theorem utf8ByteSize_parent_le (p : Path) :
    p.parent.toString.utf8ByteSize ≤ max 1 p.toString.utf8ByteSize := by
  obtain ⟨root, names⟩ := p
  by_cases hempty : root = "" ∧ names.dropLast = []
  · -- A relative path of one name at most: its directory is written as a dot.
    have hdot : (parent ⟨root, names⟩).toString = "." := if_pos hempty
    rw [hdot]
    exact Nat.le_max_left _ _
  · have hparent : (parent ⟨root, names⟩).toString = root ++ "/".intercalate names.dropLast :=
      if_neg hempty
    have hnames : ¬ (root = "" ∧ names = []) := by
      rintro ⟨rfl, rfl⟩
      exact hempty ⟨rfl, rfl⟩
    rw [hparent, toString, if_neg hnames]
    refine Nat.le_trans ?_ (Nat.le_max_right _ _)
    dsimp only
    rcases List.eq_nil_or_concat' names with rfl | ⟨above, last, rfl⟩
    · exact Nat.le_refl _
    · cases habove : above with
      | nil => simp
      | cons first rest =>
        rw [← habove, List.dropLast_concat,
          String.intercalate_append_of_ne_nil (by simp [habove]) (by simp)]
        simp only [String.utf8ByteSize_append]
        omega

/-- What leads to a place leads to a directory before its last name. -/
theorem exists_locate_parent {d : Disk} {p : Path} {l : Location} (hl : d.locate p = .ok l)
    (hne : p.names ≠ []) :
    ∃ m, d.locate p.parent = .ok m ∧ d.tree.find? m = some .directory := by
  unfold Disk.locate at hl
  split at hl
  · cases hl
  rename_i hlen
  have hshort : p.parent.toString.utf8ByteSize ≤ Disk.maxPathLength :=
    Nat.le_trans (utf8ByteSize_parent_le p) (Nat.max_le.2 ⟨by decide, Nat.not_lt.1 hlen⟩)
  rw [← List.dropLast_concat_getLast hne, List.foldlM_append] at hl
  obtain ⟨m, hm, hl⟩ := bind_eq_ok.1 hl
  rw [List.foldlM_cons] at hl
  obtain ⟨_, henter, _⟩ := bind_eq_ok.1 hl
  refine ⟨m, ?_, (enter_eq_ok.1 henter).1⟩
  rw [Disk.locate, if_neg (Nat.not_lt.2 hshort)]
  exact hm

end Path

end SymbolIndex.File
