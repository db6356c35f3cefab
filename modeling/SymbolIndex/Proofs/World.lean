import SymbolIndex.Proofs.File.Edit
import SymbolIndex.Proofs.File.Path
import SymbolIndex.Proofs.Json.Controls
import SymbolIndex.Proofs.Text.Utf8

/-!
# Files in the world

A text that was written to a file is what the file holds (`Holds`), until another file is written
to its place; and what a file holds is read back, whether by the path it was written to or by the
one that path resolves to. A text whose writing failed may have left a first part of itself
(`CutShort`).
-/

namespace SymbolIndex.World

open File SymbolIndex.Effect

variable {ε α : Type} {w w' : World} {d d' : Disk} {p : Path} {text : String}
  {content : List UInt8}

/-! ### Effects -/

theorem outcome_onDisk (toError : File.Error → ε) (e : File.Effect α) (w : World) :
    outcome (onDisk toError e) w = match outcome e w.disk with
      | (.ok a, d) => (.ok a, { w with disk := d })
      | (.error x, d) => (.error (toError x), { w with disk := d }) := by
  have hget : outcome (get : Effect ε World) w = (.ok w, w) := rfl
  unfold onDisk
  rw [outcome_bind]
  rcases h : outcome e w.disk with ⟨_ | _, d⟩
  all_goals
    have hrun : e.run w.disk = _ := h
    simp only [hget, hrun]
    rfl

theorem gives_onDisk {toError : File.Error → ε} {e : File.Effect α} {a : α} :
    Gives (onDisk toError e) w a w' ↔ ∃ d, Gives e w.disk a d ∧ w' = { w with disk := d } := by
  unfold Gives
  rw [outcome_onDisk]
  rcases outcome e w.disk with ⟨x | b, d⟩
  · simp
  · simp only [Prod.mk.injEq, Except.ok.injEq]
    constructor
    · rintro ⟨rfl, rfl⟩
      exact ⟨d, ⟨rfl, rfl⟩, rfl⟩
    · rintro ⟨_, ⟨rfl, rfl⟩, rfl⟩
      exact ⟨rfl, rfl⟩

theorem gives_ofExcept {ε' : Type} {toError : ε' → ε} {x : Except ε' α} {a : α} :
    Gives (ofExcept toError x) w a w' ↔ x = .ok a ∧ w = w' := by
  unfold ofExcept
  cases x with
  | ok b => simp [gives_pure]
  | error e => simp [not_gives_throw]

theorem fails_onDisk {toError : File.Error → ε} {e : File.Effect α} {x : ε} :
    Fails (onDisk toError e) w x w' ↔
      ∃ y d, Fails e w.disk y d ∧ toError y = x ∧ w' = { w with disk := d } := by
  unfold Fails
  rw [outcome_onDisk]
  rcases outcome e w.disk with ⟨y | b, d⟩
  · simp only [Prod.mk.injEq, Except.error.injEq]
    constructor
    · rintro ⟨rfl, rfl⟩
      exact ⟨y, d, ⟨rfl, rfl⟩, rfl, rfl⟩
    · rintro ⟨_, _, ⟨rfl, rfl⟩, rfl, rfl⟩
      exact ⟨rfl, rfl⟩
  · simp

theorem always_onDisk {R : Disk → Disk → Prop} {toError : File.Error → ε} {e : File.Effect α}
    (h : Always R e) : Always (fun w w' => R w.disk w'.disk) (onDisk toError e) := by
  intro w
  have hd := h w.disk
  rw [outcome_onDisk]
  revert hd
  rcases outcome e w.disk with ⟨_ | _, d⟩ <;> exact id

theorem fails_ofExcept {ε' : Type} {toError : ε' → ε} {x : Except ε' α} {e : ε} :
    Fails (ofExcept toError x) w e w' ↔ ∃ y, x = .error y ∧ toError y = e ∧ w = w' := by
  unfold ofExcept
  cases x with
  | ok b => simp [not_fails_pure]
  | error y => simp [fails_throw]

/-! ### Effects that leave the disk alone -/

/-- An effect leaves the disk as it is, however it ends. -/
abbrev KeepsDisk (x : Effect ε α) : Prop := Always (fun w w' : World => w'.disk = w.disk) x

theorem chains_disk : Chains fun w w' : World => w'.disk = w.disk :=
  ⟨fun _ => rfl, fun _ _ _ h h' => h'.trans h⟩

theorem keepsDisk_ofExcept {ε' : Type} (toError : ε' → ε) (x : Except ε' α) :
    KeepsDisk (ofExcept toError x) := by
  unfold ofExcept
  cases x with
  | ok a => exact chains_disk.pure a
  | error e => exact chains_disk.throw _

theorem keepsDisk_readText (toError : TextError → ε) (p : Path) :
    KeepsDisk (readText toError p) :=
  chains_disk.bind (always_onDisk (onlyLooks_read p)) fun _ => keepsDisk_ofExcept _ _

/-! ### Contents -/

/-- A path leads to a file with a content. -/
def Holds (d : Disk) (p : Path) (content : List UInt8) : Prop :=
  p.hasNull = false ∧ ∃ l, d.locate p = .ok l ∧ d.tree.find? l = some (.file content)

theorem Holds.gives_read {toError : File.Error → ε} (h : Holds w.disk p content) :
    Gives (onDisk toError (File.Effect.read p)) w content w :=
  gives_onDisk.2 ⟨w.disk, File.gives_read.2 ⟨h.1, rfl, h.2⟩, rfl⟩

/-- What is asked about a path that leads to a place. -/
theorem gives_onDisk_doesExist {toError : File.Error → ε} {l : Location} (hn : p.hasNull = false)
    (hl : w.disk.locate p = .ok l) :
    Gives (onDisk toError (File.Effect.doesExist p)) w (w.disk.tree.find? l).isSome w :=
  gives_onDisk.2 ⟨w.disk, gives_doesExist_of_locate hn hl, rfl⟩

theorem Holds.exists_gives_remove {toError : File.Error → ε} (h : Holds w.disk p content)
    (ht : Takes w.disk p) : ∃ w', Gives (onDisk toError (File.Effect.remove p)) w ⟨⟩ w' := by
  obtain ⟨hn, l, hl, hc⟩ := h
  obtain ⟨_, l', hl', _, hfree⟩ := ht
  obtain rfl := Except.ok.inj (hl.symm.trans hl')
  have hunlocked : w.disk.obstacle? l ≠ some .locked := by
    rw [hfree]
    nofun
  exact ⟨_, gives_onDisk.2 ⟨_, gives_remove.2 ⟨hn, l, content, hl, hc, hunlocked, rfl⟩, rfl⟩⟩

/-- What is read is what was written, with all line ends as line feeds. -/
theorem decodeText_encodeText_eq (text : String) :
    decodeText (encodeText text) = .ok (String.ofList (Text.Lines.unify text.toList)) := by
  unfold decodeText encodeText
  rw [Text.Utf8.decode_encode]
  rfl

theorem decodeText_encodeText (h : Text.Lines.unify text.toList = text.toList) :
    decodeText (encodeText text) = .ok text := by
  rw [decodeText_encodeText_eq, h, String.ofList_toList]

theorem encodeText_injective : Function.Injective encodeText := by
  intro a b h
  have hdecode := congrArg Text.Utf8.decode h
  rw [encodeText, encodeText, Text.Utf8.decode_encode, Text.Utf8.decode_encode] at hdecode
  exact String.toList_injective (Except.ok.inj hdecode)

theorem Holds.gives_readText_of_decode {toError : TextError → ε} (h : Holds w.disk p content)
    (htext : decodeText content = .ok text) : Gives (readText toError p) w text w :=
  gives_bind.2 ⟨content, w, h.gives_read, gives_ofExcept.2 ⟨htext, rfl⟩⟩

theorem Holds.gives_readText {toError : TextError → ε} (h : Holds w.disk p (encodeText text))
    (hlines : Text.Lines.unify text.toList = text.toList) :
    Gives (readText toError p) w text w :=
  h.gives_readText_of_decode (decodeText_encodeText hlines)

/-- What is read is the text of the file at the place that the path resolves to. -/
theorem eq_of_gives_readText {toError : TextError → ε} (hr : Rooted w.disk)
    (hc : w.disk.tree.find? (w.disk.resolve p).names = some (.file content))
    (h : Gives (readText toError p) w text w') : decodeText content = .ok text ∧ w' = w := by
  obtain ⟨content', v, hread, h⟩ := gives_bind.1 h
  obtain ⟨d, hlooked, rfl⟩ := gives_onDisk.1 hread
  obtain ⟨_, rfl, l, hl, hc'⟩ := File.gives_read.1 hlooked
  rw [(hr.locate hl).2] at hc
  obtain rfl := Node.file.inj (Option.some.inj (hc.symm.trans hc'))
  obtain ⟨hdecode, rfl⟩ := gives_ofExcept.1 h
  exact ⟨hdecode, rfl⟩

theorem hasNull_eq_false : p.hasNull = false ↔ ∀ name ∈ p.names, '\x00' ∉ name.toList := by
  simp only [Path.hasNull, List.any_eq_false, List.any_eq_true, decide_eq_true_eq,
    exists_eq_right]

theorem hasNull_child {name : String} (h : PlainName name) :
    (p.child name).hasNull = false ↔ p.hasNull = false ∧ '\x00' ∉ name.toList := by
  rw [Path.child_of_plain p h]
  simp only [hasNull_eq_false, List.forall_mem_append, List.forall_mem_singleton]

theorem mem_foldl_follow {names : List String} {here : Location} {name : String}
    (h : name ∈ names.foldl follow here) : name ∈ here ∨ name ∈ names := by
  induction names generalizing here with
  | nil => exact .inl h
  | cons next names ih =>
    rw [List.foldl_cons] at h
    rcases ih h with h | h
    · unfold follow at h
      split at h
      · exact .inl (List.mem_of_mem_dropLast h)
      · rcases List.mem_append.1 h with h | h
        · exact .inl h
        · exact .inr (List.mem_singleton.1 h ▸ List.mem_cons_self)
    · exact .inr (List.mem_cons_of_mem _ h)

theorem hasNull_resolve (hr : Rooted d) (h : p.hasNull = false) :
    (d.resolve p).hasNull = false := by
  rw [hasNull_eq_false] at *
  intro name hname
  rw [resolve_eq] at hname
  rcases mem_foldl_follow hname with hname | hname
  · unfold Disk.origin at hname
    split at hname
    · exact hr.2 name hname
    · cases hname
  · exact h name hname

/-- The file is found by the resolved path too. -/
theorem Holds.resolve (h : Holds d p content) (hr : Rooted d)
    (hlen : (d.resolve p).toString.utf8ByteSize ≤ Disk.maxPathLength) :
    Holds d (d.resolve p) content := by
  obtain ⟨hn, l, hl, hc⟩ := h
  exact ⟨hasNull_resolve hr hn, l, hr.locate_resolve hl hlen, hc⟩

theorem Holds.reaches (h : Holds d p content) : Reaches d p := by
  obtain ⟨hn, l, hl, hc⟩ := h
  exact ⟨hn, l, hl, by rw [hc]; nofun⟩

/-- The directory of a file is there. -/
theorem Holds.gives_makeDirectories (h : Holds d p content) :
    Gives (File.Effect.makeDirectories p.parent) d ⟨⟩ d := by
  obtain ⟨hn, l, hl, -⟩ := h
  have hparent : p.parent.hasNull = false := by
    rw [hasNull_eq_false] at *
    exact fun name hname => hn name (List.mem_of_mem_dropLast hname)
  by_cases hnames : p.names = []
  · refine gives_makeDirectories_of_names_eq_nil hparent ?_
    rw [Path.parent, hnames, List.dropLast_nil]
  · obtain ⟨m, hm, hdir⟩ := Path.exists_locate_parent hl hnames
    exact gives_makeDirectories_of_directory hparent hm hdir

/-! ### Writing -/

theorem holds_withFile {l : Location} (hn : p.hasNull = false) (hl : d.locate p = .ok l)
    (hdir : d.tree.find? l ≠ some .directory) : Holds (d.withFile l content) p content :=
  ⟨hn, l, (edited_withFile hdir).kept.locate hl, find?_withFile_self (ne_nil_of_not_directory hdir)⟩

/-- The place that a path leads to is the only one where a file that is written changes anything. -/
theorem edited_withFile_of_locate {l : Location} (hr : Rooted d) (hl : d.locate p = .ok l)
    (hdir : d.tree.find? l ≠ some .directory) :
    Edited [(d.resolve p).names] d (d.withFile l content) := by
  rw [(hr.locate hl).2]
  exact edited_withFile hdir

theorem gives_writeText {toError : File.Error → ε} {u : Unit} (hr : Rooted w.disk)
    (h : Gives (writeText toError p text) w u w') :
    Edited [(w.disk.resolve p).names] w.disk w'.disk ∧ Holds w'.disk p (encodeText text) := by
  unfold writeText at h
  obtain ⟨d, hd, rfl⟩ := gives_onDisk.1 h
  obtain ⟨hn, l, hl, hadmits, rfl⟩ := gives_write.1 hd
  exact ⟨edited_withFile_of_locate hr hl hadmits.file, holds_withFile hn hl hadmits.file⟩

theorem exists_gives_writeText {toError : File.Error → ε} (text : String) (h : Takes w.disk p) :
    ∃ w', Gives (writeText toError p text) w ⟨⟩ w' := by
  obtain ⟨d, hd⟩ := h.exists_gives_write (encodeText text)
  exact ⟨_, gives_onDisk.2 ⟨d, hd, rfl⟩⟩

/-- A file holds a first part of a text and no more. -/
def CutShort (d : Disk) (p : Path) (text : String) : Prop :=
  ∃ bytes, bytes < (encodeText text).length ∧ Holds d p ((encodeText text).take bytes)

/-- A text that cannot be written has changed nothing, or the device took only a first part. -/
theorem cut_of_fails_writeText {toError : File.Error → ε} {e : ε} (hr : Rooted w.disk)
    (h : Fails (writeText toError p text) w e w') :
    w' = w ∨ e = toError .deviceFull ∧ Edited [(w.disk.resolve p).names] w.disk w'.disk ∧
      CutShort w'.disk p text := by
  obtain ⟨_, d, hd, rfl, rfl⟩ := fails_onDisk.1 h
  rcases cut_of_fails_write hd with rfl | ⟨rfl, hn, l, bytes, hl, hdir, hbytes, rfl⟩
  · exact .inl rfl
  · exact .inr ⟨rfl, edited_withFile_of_locate hr hl hdir, bytes, hbytes, holds_withFile hn hl hdir⟩

/-- Files at other places stay. -/
theorem Holds.of_frame (h : Holds d p content) (hr : Rooted d) (hk : Kept d d')
    (hf : d'.tree.find? (d.resolve p).names = d.tree.find? (d.resolve p).names) :
    Holds d' p content := by
  obtain ⟨hn, l, hl, hc⟩ := h
  rw [(hr.locate hl).2] at hf
  exact ⟨hn, l, hk.locate hl, hf.trans hc⟩

theorem Holds.of_edited {places : List Location} (h : Holds d p content) (hr : Rooted d)
    (he : Edited places d d') (hp : (d.resolve p).names ∉ places) : Holds d' p content :=
  h.of_frame hr he.kept (he.frame _ hp)

theorem Holds.of_grown (h : Holds d p content) (hg : Grown d d') : Holds d' p content := by
  obtain ⟨hn, l, hl, hc⟩ := h
  exact ⟨hn, l, hg.kept.locate hl, hg.node l _ hc⟩

/-- A file that a path leads to stands at the place that the path resolves to. -/
theorem Holds.find?_resolve (h : Holds d p content) (hr : Rooted d) :
    d.tree.find? (d.resolve p).names = some (.file content) := by
  obtain ⟨_, l, hl, hc⟩ := h
  rwa [(hr.locate hl).2]

section
variable {toError : File.Error → ε} {path : α → Path} {texts : α → String} {xs : List α}

/-- Texts written one after the other to different places. -/
theorem gives_forM_writeText (hr : Rooted w.disk)
    (hdistinct : (xs.map fun x => (w.disk.resolve (path x)).names).Nodup)
    (h : Gives (xs.forM fun x => writeText toError (path x) (texts x)) w ⟨⟩ w') :
    Edited (xs.map fun x => (w.disk.resolve (path x)).names) w.disk w'.disk ∧
      ∀ x ∈ xs, Holds w'.disk (path x) (encodeText (texts x)) := by
  induction xs generalizing w with
  | nil =>
    obtain rfl := gives_forM_nil.1 h
    exact ⟨.refl _ _, nofun⟩
  | cons x xs ih =>
    obtain ⟨v, hx, hrest⟩ := gives_forM_cons.1 h
    obtain ⟨hedited, hholds⟩ := gives_writeText hr hx
    have hrv := hedited.kept.rooted hr
    rw [List.map_cons, List.nodup_cons] at hdistinct
    obtain ⟨hnew, hdistinct⟩ := hdistinct
    have hresolve : ∀ y, v.disk.resolve (path y) = w.disk.resolve (path y) :=
      fun y => hedited.kept.resolve (path y)
    simp only [← hresolve] at hnew hdistinct
    obtain ⟨hedited', hholds'⟩ := ih hrv hdistinct hrest
    refine ⟨?_, fun y hy => ?_⟩
    · simp only [hresolve] at hedited'
      exact hedited.trans hedited'
    · rcases List.mem_cons.1 hy with rfl | hy
      · exact hholds.of_edited hrv hedited' hnew
      · exact hholds' y hy

theorem exists_gives_forM_writeText (h : ∀ x ∈ xs, Takes w.disk (path x)) (hr : Rooted w.disk) :
    ∃ w', Gives (xs.forM fun x => writeText toError (path x) (texts x)) w ⟨⟩ w' := by
  induction xs generalizing w with
  | nil => exact ⟨w, gives_forM_nil.2 rfl⟩
  | cons x xs ih =>
    obtain ⟨v, hx⟩ := exists_gives_writeText (texts x) (h x List.mem_cons_self)
    have hedited := (gives_writeText hr hx).1
    obtain ⟨w', hrest⟩ := ih (fun y hy => (h y (List.mem_cons_of_mem _ hy)).of_edited hedited)
      (hedited.kept.rooted hr)
    exact ⟨w', gives_forM_cons.2 ⟨v, hx, hrest⟩⟩

end

end SymbolIndex.World
