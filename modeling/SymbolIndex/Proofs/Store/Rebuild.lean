import SymbolIndex.Proofs.Store.Overwrite

/-!
# Writing one index after another

A directory that holds no file, or exactly one index, is `Settled`. Writing an index into it makes
it hold exactly that index (`Settled.holdsExactly`), and it can be written if the directory takes its
files (`Settled.exists_gives_write`). So after any number of writes into a fresh directory its
files are those of the last index (`directory_holds_last_build`). A directory that the system
refuses to make holds none (`long_directory_holds_no_build`).
-/

namespace SymbolIndex.Store

open File SymbolIndex.Effect World

variable {b : Build} {builds : List Build} {w w' : World} {out : Path} {d d' : Disk}
  {paths : List Path} {name : String}

/-! ### Directories of one index -/

/-- There is no file in a directory or below it. -/
def Fresh (d : Disk) (out : Path) : Prop :=
  ∀ rest content, d.tree.find? (placeOf d out ++ rest) ≠ some (.file content)

/-- A directory holds the files of an index and no others. -/
structure HoldsExactly (b : Build) (out : Path) (d : Disk) : Prop where
  stored : Stored b out d
  only : ∀ rest content, d.tree.find? (placeOf d out ++ rest) = some (.file content) →
    ∃ name ∈ names b, rest = [name]

def Settled (d : Disk) (out : Path) : Prop :=
  Fresh d out ∨ ∃ b : Build, b.Built ∧ HoldsExactly b out d

theorem Settled.of_grown (h : Settled d out) (hg : Grown d d') : Settled d' out := by
  have hfile : ∀ {rest content}, d'.tree.find? (placeOf d' out ++ rest) = some (.file content) →
      d.tree.find? (placeOf d out ++ rest) = some (.file content) := by
    intro rest content hc
    rw [placeOf_of_kept hg.kept] at hc
    exact hg.file _ content hc
  rcases h with h | ⟨b, hb, h⟩
  · exact .inl fun rest content hc => h rest content (hfile hc)
  · exact .inr ⟨b, hb, h.stored.of_grown hg, fun rest content hc => h.only rest content (hfile hc)⟩

/-- A listed id of a settled directory is that of a shard whose file is there. -/
theorem Settled.exists_shard (h : Settled d out) (hr : Rooted d) {id : String}
    (hid : id ∈ listedIds d out) : '/' ∉ id.toList ∧ ∃ content, Holds d (shardPath out id) content := by
  rcases h with h | ⟨b, hb, h⟩
  · have hnone : listedIds d out = [] := listedIds_of_fresh fun content hc => by
      rw [placeOf_manifestPath] at hc
      exact h [Manifest.fileName] content hc
    rw [hnone] at hid
    cases hid
  · rw [h.stored.listedIds_eq hr] at hid
    obtain ⟨s, hs, rfl⟩ := hb.mem_shardIds.1 hid
    obtain ⟨p, hid⟩ := hb.exists_id_mem hs
    exact ⟨slash_not_mem_of_mem_allIds hid, _, h.stored.shard s hs⟩

theorem Settled.listsPlainIds (h : Settled d out) (hr : Rooted d) : ListsPlainIds d out :=
  fun _ hid => (h.exists_shard hr hid).1

/-- A file of a settled directory is the manifest or that of a listed id. -/
theorem Settled.name_of_file (h : Settled d out) (hr : Rooted d) {rest : Location}
    {content : List UInt8} (hc : d.tree.find? (placeOf d out ++ rest) = some (.file content)) :
    rest = [Manifest.fileName] ∨ ∃ id ∈ listedIds d out, rest = [Shard.fileName id] := by
  rcases h with h | ⟨b, hb, h⟩
  · exact absurd hc (h rest content)
  · obtain ⟨name, hname, rfl⟩ := h.only rest content hc
    rw [names_eq] at hname
    rcases List.mem_cons.1 hname with rfl | hname
    · exact .inl rfl
    · obtain ⟨s, hs, rfl⟩ := List.mem_map.1 hname
      refine .inr ⟨s.id, ?_, rfl⟩
      rw [h.stored.listedIds_eq hr]
      exact hb.mem_shardIds.2 ⟨s, hs, rfl⟩

/-- Writing an index into a settled directory leaves exactly that index. -/
theorem Settled.holdsExactly (h : Settled w.disk out) (hb : b.Built) (hr : Rooted w.disk)
    (hwrite : Gives (write b out) w paths w') : HoldsExactly b out w'.disk := by
  have hrewritten := rewritten_of_gives hb hr hwrite
  refine ⟨hrewritten.stored_of_plain hb (h.listsPlainIds hr), fun rest content hc => ?_⟩
  rw [placeOf_of_kept hrewritten.kept] at hc
  by_cases hindex : placeOf w.disk out ++ rest ∈ indexPlaces b w.disk out
  · obtain ⟨name, hname, heq⟩ := List.mem_map.1 hindex
    exact ⟨name, hname, (List.append_cancel_left heq).symm⟩
  -- The file was there before, so it is the manifest or that of a listed id.
  exfalso
  have hold := hrewritten.old _ content hindex hc
  rcases h.name_of_file hr hold with rfl | ⟨id, hid, rfl⟩
  · refine hindex (List.mem_map_of_mem (f := filePlace w.disk out) ?_)
    rw [names_eq]
    exact List.mem_cons_self
  · obtain ⟨hslash, content', hholds⟩ := h.exists_shard hr hid
    have hplace := placeOf_child w.disk out (plainName_of_slash hslash)
    have hnot : Shard.fileName id ∉ names b := fun hmem => hindex (List.mem_map_of_mem hmem)
    rw [names_eq, List.mem_cons, not_or] at hnot
    have hstale : id ∈ staleIds b (listedIds w.disk out) := by
      refine mem_staleIds.2 ⟨hid, fun hmem => hnot.2 ?_⟩
      obtain ⟨s, hs, rfl⟩ := hb.mem_shardIds.1 hmem
      exact List.mem_map_of_mem hs
    have hne : placeOf w.disk (shardPath out id) ≠ placeOf w.disk (manifestPath out) := by
      rw [placeOf_manifestPath, shardPath, hplace]
      exact fun heq => hnot.1 (filePlace_injective _ _ heq)
    have hnone := hrewritten.gone id hstale content' hholds hne
    rw [shardPath, hplace] at hnone
    rw [show w'.disk.tree.find? (filePlace w.disk out (Shard.fileName id)) = _ from hc] at hnone
    cases hnone

/-! ### Directories that take an index -/

/-- The system takes the paths of the files of an index, and its numbers can be printed. -/
structure Fits (b : Build) (out : Path) : Prop where
  numbers : b.manifest.Writable
  path : ∀ name ∈ names b, (out.child name).toString.utf8ByteSize ≤ Disk.maxPathLength
  name : ∀ name ∈ names b, name.utf8ByteSize ≤ Disk.maxNameLength

/-- A path leads to a directory without directories, where files can be written and removed. -/
structure Clear (d : Disk) (out : Path) : Prop where
  null : out.hasNull = false
  directory : ∃ l, d.locate out = .ok l ∧ d.tree.find? l = some .directory
  inside : ∀ name, d.tree.find? (filePlace d out name) ≠ some .directory
  free : ∀ name, d.obstacle? (filePlace d out name) = none

theorem Clear.of_edited {places : List Location} (h : Clear d out) (he : Edited places d d') :
    Clear d' out := by
  obtain ⟨l, hl, hdir⟩ := h.directory
  refine ⟨h.null, ⟨l, he.kept.locate hl, (he.directory l).2 hdir⟩, fun name hname => ?_,
    fun name => ?_⟩
  · rw [filePlace, placeOf_of_kept he.kept] at hname
    exact h.inside name ((he.directory _).1 hname)
  · rw [filePlace, placeOf_of_kept he.kept, he.kept.obstacle?]
    exact h.free name

/-- The directory takes a file. -/
theorem Clear.takes_child (h : Clear d out) (hr : Rooted d) (hplain : PlainName name)
    (hnull : '\x00' ∉ name.toList) (hname : name.utf8ByteSize ≤ Disk.maxNameLength)
    (hpath : (out.child name).toString.utf8ByteSize ≤ Disk.maxPathLength) :
    Takes d (out.child name) := by
  obtain ⟨l, hl, hdir⟩ := h.directory
  have hplace : filePlace d out name = l ++ [name] := by rw [filePlace, placeOf, (hr.locate hl).2]
  refine ⟨?_, l ++ [name], Path.locate_child hplain hl hdir hname hpath, ?_, ?_⟩
  · exact (hasNull_child hplain).2 ⟨h.null, hnull⟩
  · rw [← hplace]
    exact h.inside name
  · rw [← hplace]
    exact h.free name

/-- A file of the directory can be written and removed. -/
theorem Clear.takes_of_holds (h : Clear d out) (hr : Rooted d) (hplain : PlainName name)
    {content : List UInt8} (hholds : Holds d (out.child name) content) :
    Takes d (out.child name) := by
  obtain ⟨hn, l, hl, hdir⟩ := hholds.reaches
  have hplace : filePlace d out name = l := by
    rw [← placeOf_child d out hplain, placeOf, (hr.locate hl).2]
  refine ⟨hn, l, hl, hdir, ?_⟩
  rw [← hplace]
  exact h.free name

/-- The directory takes the files of an index. -/
theorem Clear.takes (h : Clear d out) (hr : Rooted d) (hb : b.Built) (hfits : Fits b out)
    (hname : name ∈ names b) : Takes d (out.child name) :=
  h.takes_child hr (plainName_of_mem_names hb hname) (null_not_mem_of_mem_names hb hname)
    (hfits.name name hname) (hfits.path name hname)

/-- Making the directory of an index leaves a directory without directories. -/
def Makes (d : Disk) (out : Path) : Prop :=
  ∃ d', Gives (File.Effect.makeDirectories out) d ⟨⟩ d' ∧ Clear d' out

theorem Clear.gives_makeDirectories (h : Clear d out) :
    Gives (File.Effect.makeDirectories out) d ⟨⟩ d := by
  obtain ⟨l, hl, hdir⟩ := h.directory
  exact gives_makeDirectories_of_directory h.null hl hdir

theorem Clear.makes (h : Clear d out) : Makes d out := ⟨d, h.gives_makeDirectories, h⟩

/-- A directory that is there does not have to be made. -/
theorem Clear.eq_of_gives_makeDirectories {ε : Type} {toError : File.Error → ε} {v : World}
    (h : Clear w.disk out)
    (hmake : Gives (onDisk toError (File.Effect.makeDirectories out)) w ⟨⟩ v) : w = v := by
  obtain ⟨d, hmade, rfl⟩ := gives_onDisk.1 hmake
  obtain ⟨_, hd⟩ := h.gives_makeDirectories.unique hmade
  rw [← hd]

theorem Settled.exists_gives_write (h : Settled w.disk out) (hb : b.Built) (hr : Rooted w.disk)
    (hmakes : Makes w.disk out) (hfits : Fits b out) :
    ∃ paths w', Gives (write b out) w paths w' ∧ Clear w'.disk out := by
  obtain ⟨d, hmake, hclear⟩ := hmakes
  have hgrown : Grown w.disk d := (grown_makeDirectories out).of_gives hmake
  have hr₁ := hgrown.kept.rooted hr
  have hsettled := h.of_grown hgrown
  let w₁ : World := { w with disk := d }
  have htakes : Takes w₁.disk (manifestPath out) :=
    hclear.takes hr₁ hb hfits (by rw [names_eq]; exact List.mem_cons_self)
  have hread : ∀ content, d.tree.find? (placeOf d (manifestPath out)) = some (.file content) →
      ∃ m, (File.decodeText content).toOption.map Manifest.read = some (.ok m) := by
    intro content hc
    rcases hsettled with hfresh | ⟨b', _, hexact⟩
    · rw [placeOf_manifestPath] at hc
      exact absurd hc (hfresh [Manifest.fileName] content)
    · exact ⟨b'.manifest, hexact.stored.read_manifest hr₁ hc⟩
  obtain ⟨ids, hids⟩ := exists_gives_previousIds (w := w₁) hr₁ htakes.reaches hread
  have hlisted : ids = listedIds d out := gives_previousIds hr₁ htakes.reaches hids
  obtain ⟨w₃, hshards⟩ : ∃ w₃, Gives (writeShards b out) w₁ ⟨⟩ w₃ :=
    exists_gives_forM_writeText
      (fun s hs => hclear.takes hr₁ hb hfits (List.mem_map_of_mem (shardFile_mem hs))) hr₁
  have hedited₃ := (gives_forM_writeText hr₁ (nodup_shardPlaces hb w₁.disk out) hshards).1
  have hr₃ := hedited₃.kept.rooted hr₁
  obtain ⟨w₄, hstale⟩ : ∃ w₄, Gives ((staleIds b ids).forM (removeStale out)) w₃ ⟨⟩ w₄ := by
    refine exists_gives_forM_removeStale hr₃ fun id hid => ?_
    have hid := (mem_staleIds.1 hid).1
    rw [hlisted] at hid
    obtain ⟨hslash, content, hholds⟩ := hsettled.exists_shard hr₁ hid
    exact (hclear.takes_of_holds hr₁ (plainName_of_slash hslash) hholds).of_edited hedited₃
  have hedited₄ := (gives_forM_removeStale hr₃ hstale).1.toEdited
  have hr₄ := hedited₄.kept.rooted hr₃
  obtain ⟨w', hlast⟩ : ∃ w', Gives (writeText Error.file (manifestPath out) b.manifest.render)
      w₄ ⟨⟩ w' :=
    exists_gives_writeText _ ((htakes.of_edited hedited₃).of_edited hedited₄)
  have hedited := (gives_writeText hr₄ hlast).1
  refine ⟨_, w', gives_write_iff.2 ⟨w₁, ids, w₁, w₃, w₄, gives_onDisk.2 ⟨d, hmake, rfl⟩, hids,
    hshards, hstale, gives_writeManifest.2 ⟨hfits.numbers, hlast⟩, rfl⟩, ?_⟩
  exact ((hclear.of_edited hedited₃).of_edited hedited₄).of_edited hedited

/-- A write into a directory that is there makes no directory. -/
theorem exists_edited_of_gives_write (hb : b.Built) (hr : Rooted w.disk) (hclear : Clear w.disk out)
    (hwrite : Gives (write b out) w paths w') : ∃ places, Edited places w.disk w'.disk := by
  obtain ⟨w₁, ids, w₂, w₃, w₄, hmake, hids, hshards, hstale, hlast, _⟩ := gives_write_iff.1 hwrite
  obtain rfl := hclear.eq_of_gives_makeDirectories hmake
  have hsame : w₂.disk = w.disk := (disk_previousIds out).of_gives hids
  have hedited := (gives_forM_writeText (hsame ▸ hr) (nodup_shardPlaces hb _ out) hshards).1
  rw [hsame] at hedited
  have hr₃ := hedited.kept.rooted hr
  have hremoved := (gives_forM_removeStale hr₃ hstale).1
  have hedited' := (gives_writeText (hremoved.kept.rooted hr₃) (gives_writeManifest.1 hlast).2).1
  exact ⟨_, (hedited.trans hremoved.toEdited).trans hedited'⟩

/-! ### Any number of writes -/

/-- The files of a directory that holds an index and no more. -/
theorem HoldsExactly.file_iff (h : HoldsExactly b out d) (hb : b.Built) (hr : Rooted d)
    (rest : Location) (content : List UInt8) :
    d.tree.find? (placeOf d out ++ rest) = some (.file content) ↔
      ∃ f ∈ files b, rest = [f.1] ∧ content = encodeText f.2 := by
  have hfile : ∀ f ∈ files b,
      d.tree.find? (filePlace d out f.1) = some (.file (encodeText f.2)) := by
    intro f hf
    have hplace := placeOf_child d out (plainName_of_mem_names hb (List.mem_map_of_mem hf))
    rw [← hplace]
    rcases List.mem_cons.1 hf with rfl | hf
    · exact h.stored.manifest.find?_resolve hr
    · obtain ⟨s, hs, rfl⟩ := List.mem_map.1 hf
      exact (h.stored.shard s hs).find?_resolve hr
  constructor
  · intro hc
    obtain ⟨name, hname, rfl⟩ := h.only rest content hc
    obtain ⟨f, hf, rfl⟩ := List.mem_map.1 hname
    have hnode := (hfile f hf).symm.trans hc
    exact ⟨f, hf, rfl, (Node.file.inj (Option.some.inj hnode)).symm⟩
  · rintro ⟨f, hf, rfl, rfl⟩
    exact hfile f hf

end SymbolIndex.Store
