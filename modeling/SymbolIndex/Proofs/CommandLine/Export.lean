import SymbolIndex.Proofs.CommandLine.Build
import SymbolIndex.Proofs.SearchData.RoundTrip

/-!
# The export command

An export makes its directory and writes a search data file for each shard of the index
(`exists_of_gives_runExport`), and it succeeds if the directory takes these files
(`exists_gives_runExport`). `Exported` is what it leaves on the disk.
-/

namespace SymbolIndex.CommandLine

open File SymbolIndex.Effect World Store

variable {b : Build} {s : Shard} {id : String} {d d' : Disk} {w w' : World} {dir js out : Path}
  {output : Output}

/-! ### Names of exported files -/

theorem toList_searchDataName (id : String) : (SearchData.fileName id).toList =
    "searchdata_".toList ++ id.toList ++ ".js".toList := by
  rw [SearchData.fileName, String.toList_append, String.toList_append]

theorem searchDataName_injective : Function.Injective SearchData.fileName := by
  intro a b h
  have hlist := congrArg String.toList h
  rw [toList_searchDataName, toList_searchDataName, List.append_cancel_right_eq,
    List.append_cancel_left_eq] at hlist
  exact String.toList_injective hlist

theorem plainName_searchData (hb : b.Built) (hs : s ∈ b.shards) :
    PlainName (SearchData.fileName s.id) := by
  obtain ⟨p, hid⟩ := hb.exists_id_mem hs
  have hslash := slash_not_mem_of_mem_allIds hid
  have hfront : "searchdata_".toList.length = 11 := by decide
  refine plainName_of_length ?_ ?_
  · rw [toList_searchDataName, List.mem_append, List.mem_append, not_or, not_or]
    exact ⟨⟨by decide, hslash⟩, by decide⟩
  · rw [toList_searchDataName, List.length_append, List.length_append]
    omega

theorem null_not_mem_searchDataName (hb : b.Built) (hs : s ∈ b.shards) :
    '\x00' ∉ (SearchData.fileName s.id).toList := by
  obtain ⟨p, hid⟩ := hb.exists_id_mem hs
  rw [toList_searchDataName, List.mem_append, List.mem_append, not_or, not_or]
  exact ⟨⟨by decide, fun h => absurd (Partition.isAlphanum_of_mem_allIds hid h) (by decide)⟩,
    by decide⟩

/-- No file of an index has the name of a search data file. -/
theorem searchDataName_not_mem_names (b : Build) (id : String) :
    SearchData.fileName id ∉ names b := by
  have hjson : ∀ name ∈ names b, name.toList.getLast? = some 'n' := by
    intro name hname
    rw [names_eq] at hname
    rcases List.mem_cons.1 hname with rfl | hname
    · decide
    · obtain ⟨s, _, rfl⟩ := List.mem_map.1 hname
      rw [Shard.fileName, String.toList_append, List.getLast?_append]
      rfl
  intro h
  have hlast := hjson _ h
  have hend : ".js".toList.getLast? = some 's' := by decide
  rw [toList_searchDataName, List.getLast?_append, hend, Option.some_or] at hlast
  exact absurd hlast (by decide)

/-- The path of the search data file of a shard. -/
def exportPath (js : Path) (s : Shard) : Path := js.child (SearchData.fileName s.id)

theorem suffix_exportPath (hb : b.Built) (hs : s ∈ b.shards) (js : Path) :
    (exportPath js s).suffix = ".js" := by
  have hname : (exportPath js s).names.getLast? = some (SearchData.fileName s.id) := by
    rw [exportPath, Path.child_of_plain js (plainName_searchData hb hs), List.getLast?_concat]
  have htail : ((SearchData.fileName s.id).toList.reverse.takeWhile (· ≠ '.')).reverse =
      ['j', 's'] := by
    rw [toList_searchDataName, List.reverse_append]
    rfl
  have hlen : 11 ≤ (SearchData.fileName s.id).toList.length - 2 := by
    have hfront : "searchdata_".toList.length = 11 := by decide
    have hback : ".js".toList.length = 3 := by decide
    rw [toList_searchDataName, List.length_append, List.length_append]
    omega
  simp only [Path.suffix, hname, Option.getD_some, htail]
  exact if_pos ⟨by decide, by simp only [List.length_cons, List.length_nil]; omega⟩

/-- The places of the exported files. -/
def exportPlaces (b : Build) (d : Disk) (js : Path) : List Location :=
  b.shards.map fun s => placeOf d (exportPath js s)

theorem placeOf_exportPath (hb : b.Built) (hs : s ∈ b.shards) (d : Disk) (js : Path) :
    placeOf d (exportPath js s) = filePlace d js (SearchData.fileName s.id) :=
  placeOf_child d js (plainName_searchData hb hs)

theorem nodup_exportPlaces (hb : b.Built) (d : Disk) (js : Path) : (exportPlaces b d js).Nodup := by
  have h := (hb.nodup_ids.map searchDataName_injective).map (filePlace_injective d js)
  rw [List.map_map, List.map_map] at h
  rwa [exportPlaces, List.map_congr_left fun s hs => placeOf_exportPath hb hs d js]

/-- The exported files are none of the files of the index. -/
theorem filePlace_not_mem_exportPlaces (hb : b.Built) {name : String} (hname : name ∈ names b)
    (dir js : Path) : filePlace d dir name ∉ exportPlaces b d js := by
  intro h
  obtain ⟨s, hs, heq⟩ := List.mem_map.1 h
  rw [placeOf_exportPath hb hs] at heq
  have hlast := congrArg List.getLast? heq
  rw [filePlace, filePlace, List.getLast?_concat, List.getLast?_concat] at hlast
  exact searchDataName_not_mem_names b s.id (Option.some.inj hlast ▸ hname)

/-! ### Exporting -/

theorem stored_of_edited {places : List Location} (h : Stored b dir d) (hb : b.Built)
    (hr : Rooted d) (he : Edited places d d')
    (hp : ∀ name ∈ names b, filePlace d dir name ∉ places) : Stored b dir d' := by
  refine ⟨h.numbers, h.manifest.of_edited hr he ?_, fun s hs => (h.shard s hs).of_edited hr he ?_⟩
  · rw [show (d.resolve (manifestPath dir)).names = _ from placeOf_manifestPath d dir]
    exact hp _ (by rw [names_eq]; exact List.mem_cons_self)
  · rw [show (d.resolve (shardPath dir s.id)).names = _ from placeOf_shardPath hb d dir hs]
    exact hp _ (List.mem_map_of_mem (shardFile_mem hs))

/-- Writes the search data files of shards. -/
def writeSearchData (shards : List Shard) (js : Path) : Effect Failure Unit :=
  shards.forM fun s => writeText Failure.file (exportPath js s) (SearchData.render s)

/-- A file of a directory, looked for from the resolved directory. -/
theorem find?_resolve_child {name : String} {content : List UInt8} (hr : Rooted d)
    (hname : PlainName name) (h : Holds d (dir.child name) content) :
    d.tree.find? (placeOf d ((d.resolve dir).child name)) = some (.file content) := by
  obtain ⟨_, l, hl, hc⟩ := h
  rw [Path.child_resolve d dir hname, placeOf, hr.resolve_resolve hl, (hr.locate hl).2]
  exact hc

/-- The manifest that is read from the resolved directory is that of the index. -/
theorem eq_of_gives_readManifest {m : Manifest} (hr : Rooted w.disk) (h : Stored b dir w.disk)
    (hx : Gives (readManifest (w.disk.resolve dir)) w m w') : m = b.manifest ∧ w' = w := by
  obtain ⟨text, v, htext, hx⟩ := gives_bind.1 hx
  have hc := find?_resolve_child hr plainName_manifest h.manifest
  obtain ⟨hdecode, rfl⟩ := eq_of_gives_readText hr hc htext
  rw [decodeText_encodeText (Manifest.unify_render h.numbers)] at hdecode
  cases hdecode
  obtain ⟨hread, rfl⟩ := gives_ofExcept.1 hx
  rw [Manifest.read_render h.numbers] at hread
  exact ⟨(Except.ok.inj hread).symm, rfl⟩

theorem gives_exportShard (hb : b.Built) (hr : Rooted w.disk) (h : Stored b dir w.disk)
    (hs : s ∈ b.shards) {u : Unit}
    (hx : Gives (exportShard (w.disk.resolve dir) js s.id) w u w') :
    Gives (writeText Failure.file (exportPath js s) (SearchData.render s)) w u w' := by
  obtain ⟨document, v, hfetch, hx⟩ := gives_bind.1 hx
  have hname := plainName_of_mem_names hb (List.mem_map_of_mem (shardFile_mem hs))
  have hc := find?_resolve_child hr hname (h.shard s hs)
  obtain ⟨htext, rfl⟩ := eq_of_gives_readText hr hc (gives_adapt.1 hfetch)
  rw [decodeText_encodeText s.unify_render] at htext
  cases htext
  obtain ⟨shard, _, hshard, hx⟩ := gives_bind.1 hx
  obtain ⟨hread, rfl⟩ := gives_ofExcept.1 hshard
  rw [Shard.read_render (hb.wellFormed hs)] at hread
  cases hread
  exact hx

theorem exists_gives_exportShard (hb : b.Built) (hr : Rooted w.disk) (h : Stored b dir w.disk)
    (hshort : Short b dir w.disk) (hs : s ∈ b.shards)
    (hx : Gives (writeText Failure.file (exportPath js s) (SearchData.render s)) w ⟨⟩ w') :
    Gives (exportShard (w.disk.resolve dir) js s.id) w ⟨⟩ w' := by
  have hname := plainName_of_mem_names hb (List.mem_map_of_mem (shardFile_mem hs))
  have hfetch := gives_fetch hr hname (h.shard s hs) (hshort.shard hs)
  refine gives_bind.2 ⟨s.render, w, gives_adapt.2 hfetch, gives_bind.2 ⟨s, w, ?_, hx⟩⟩
  exact gives_ofExcept.2 ⟨Shard.read_render (hb.wellFormed hs), rfl⟩

/-- What the exports of some shards of a stored index write. -/
theorem edited_writeSearchData {shards : List Shard} (hb : b.Built) (hsub : shards.Sublist b.shards)
    (hr : Rooted w.disk) (h : Gives (writeSearchData shards js) w ⟨⟩ w') :
    Edited (exportPlaces b w.disk js) w.disk w'.disk ∧
      ∀ s ∈ shards, Holds w'.disk (exportPath js s) (encodeText (SearchData.render s)) := by
  have hplaces := hsub.map fun s => placeOf w.disk (exportPath js s)
  obtain ⟨hedited, hholds⟩ :=
    gives_forM_writeText hr ((nodup_exportPlaces hb w.disk js).sublist hplaces) h
  exact ⟨hedited.mono hplaces.subset, hholds⟩

theorem stored_of_writeSearchData {shards : List Shard} (h : Stored b dir w.disk) (hb : b.Built)
    (hsub : shards.Sublist b.shards) (hr : Rooted w.disk)
    (hx : Gives (writeSearchData shards js) w ⟨⟩ w') : Stored b dir w'.disk :=
  stored_of_edited h hb hr (edited_writeSearchData hb hsub hr hx).1
    fun _ hname => filePlace_not_mem_exportPlaces hb hname dir js

/-- The export of one shard leaves the index stored. -/
theorem stored_of_writeText (h : Stored b dir w.disk) (hb : b.Built) (hr : Rooted w.disk)
    (hs : s ∈ b.shards)
    (hx : Gives (writeText Failure.file (exportPath js s) (SearchData.render s)) w ⟨⟩ w') :
    Kept w.disk w'.disk ∧ Stored b dir w'.disk := by
  have hone : Gives (writeSearchData [s] js) w ⟨⟩ w' :=
    gives_forM_cons.2 ⟨w', hx, gives_forM_nil.2 rfl⟩
  have hsub : [s].Sublist b.shards := List.singleton_sublist.2 hs
  exact ⟨(edited_writeSearchData hb hsub hr hone).1.kept,
    stored_of_writeSearchData h hb hsub hr hone⟩

theorem gives_writeSearchData_of_exports {shards : List Shard} (hb : b.Built)
    (hsub : shards.Sublist b.shards) (hr : Rooted w.disk) (h : Stored b dir w.disk)
    (hx : Gives ((shards.map (·.id)).forM (exportShard (w.disk.resolve dir) js)) w ⟨⟩ w') :
    Gives (writeSearchData shards js) w ⟨⟩ w' := by
  induction shards generalizing w with
  | nil => exact gives_forM_nil.2 (gives_forM_nil.1 hx)
  | cons s shards ih =>
    have hs := hsub.subset List.mem_cons_self
    obtain ⟨v, hone, hrest⟩ := gives_forM_cons.1 hx
    have hwrite := gives_exportShard hb hr h hs hone
    obtain ⟨hkept, hstored⟩ := stored_of_writeText h hb hr hs hwrite
    refine gives_forM_cons.2 ⟨v, hwrite, ih ((List.sublist_cons_self s shards).trans hsub)
      (hkept.rooted hr) hstored ?_⟩
    rwa [hkept.resolve]

theorem gives_exports_of_writeSearchData {shards : List Shard} (hb : b.Built)
    (hsub : shards.Sublist b.shards) (hr : Rooted w.disk) (h : Stored b dir w.disk)
    (hshort : Short b dir w.disk) (hx : Gives (writeSearchData shards js) w ⟨⟩ w') :
    Gives ((shards.map (·.id)).forM (exportShard (w.disk.resolve dir) js)) w ⟨⟩ w' := by
  induction shards generalizing w with
  | nil => exact gives_forM_nil.2 (gives_forM_nil.1 hx)
  | cons s shards ih =>
    have hs := hsub.subset List.mem_cons_self
    obtain ⟨v, hwrite, hrest⟩ := gives_forM_cons.1 hx
    obtain ⟨hkept, hstored⟩ := stored_of_writeText h hb hr hs hwrite
    have hgives := ih ((List.sublist_cons_self s shards).trans hsub) (hkept.rooted hr) hstored
      (hshort.of_kept hkept) hrest
    rw [hkept.resolve] at hgives
    exact gives_forM_cons.2 ⟨v, exists_gives_exportShard hb hr h hshort hs hwrite, hgives⟩

/-- An export command that succeeded made its directory and wrote the files of all shards. -/
theorem exists_of_gives_runExport (hb : b.Built) (hr : Rooted w.disk) (h : Stored b dir w.disk)
    (hx : Gives (runExport dir (some js)) w output w') :
    ∃ v, Gives (onDisk Failure.file (File.Effect.makeDirectories js)) w ⟨⟩ v ∧
      Gives (writeSearchData b.shards js) v ⟨⟩ w' := by
  obtain ⟨root, w₁, hlocate, hx⟩ := gives_bind.1 hx
  obtain ⟨_, rfl, rfl⟩ := gives_locate.1 (gives_adapt.1 hlocate)
  obtain ⟨_, w₂, hneed, hx⟩ := gives_bind.1 hx
  obtain ⟨rfl, rfl⟩ := gives_pure.1 hneed
  obtain ⟨_, v, hmake, hx⟩ := gives_bind.1 hx
  have hgrown : Grown w.disk v.disk := (always_onDisk (grown_makeDirectories js)).of_gives hmake
  have hr' := hgrown.kept.rooted hr
  have hstored := h.of_grown hgrown
  rw [← hgrown.kept.resolve] at hx
  obtain ⟨m, w₃, hmanifest, hx⟩ := gives_bind.1 hx
  obtain ⟨rfl, rfl⟩ := eq_of_gives_readManifest hr' hstored (gives_adapt.1 hmanifest)
  obtain ⟨_, w₄, hexports, hx⟩ := gives_bind.1 hx
  obtain ⟨_, rfl⟩ := gives_pure.1 hx
  rw [hb.shardIds] at hexports
  exact ⟨w₃, hmake, gives_writeSearchData_of_exports hb (.refl _) hr' hstored hexports⟩

/-- The system takes the paths of the exported files. -/
structure FitsExport (b : Build) (js : Path) : Prop where
  path : ∀ s ∈ b.shards, (exportPath js s).toString.utf8ByteSize ≤ Disk.maxPathLength
  name : ∀ s ∈ b.shards, (SearchData.fileName s.id).utf8ByteSize ≤ Disk.maxNameLength

theorem FitsExport.takes (h : FitsExport b js) (hb : b.Built) (hr : Rooted d) (hclear : Clear d js)
    (hs : s ∈ b.shards) : Takes d (exportPath js s) :=
  hclear.takes_child hr (plainName_searchData hb hs) (null_not_mem_searchDataName hb hs)
    (h.name s hs) (h.path s hs)

theorem exists_gives_runExport (hb : b.Built) (hr : Rooted w.disk) (h : Stored b dir w.disk)
    (hshort : Short b dir w.disk) (hmakes : Makes w.disk js) (hfits : FitsExport b js) :
    ∃ output w', Gives (runExport dir (some js)) w output w' := by
  obtain ⟨d, hmake, hclear⟩ := hmakes
  have hgrown : Grown w.disk d := (grown_makeDirectories js).of_gives hmake
  let v : World := { w with disk := d }
  have hr' : Rooted v.disk := hgrown.kept.rooted hr
  have hstored : Stored b dir v.disk := h.of_grown hgrown
  have hshort' : Short b dir v.disk := hshort.of_kept hgrown.kept
  obtain ⟨w', hwrite⟩ : ∃ w', Gives (writeSearchData b.shards js) v ⟨⟩ w' :=
    exists_gives_forM_writeText (fun s hs => hfits.takes hb hr' hclear hs) hr'
  have hexports := gives_exports_of_writeSearchData hb (.refl _) hr' hstored hshort' hwrite
  have hmanifest := gives_readManifest hr' hstored.numbers hstored.manifest hshort'.manifest
  rw [hgrown.kept.resolve] at hexports hmanifest
  have hnull : dir.hasNull = false := ((hasNull_child plainName_manifest).1 h.manifest.1).1
  refine ⟨_, w', gives_bind.2 ⟨_, w, gives_adapt.2 (gives_locate.2 ⟨hnull, rfl, rfl⟩),
    gives_bind.2 ⟨js, w, gives_pure.2 ⟨rfl, rfl⟩,
      gives_bind.2 ⟨⟨⟩, v, gives_onDisk.2 ⟨d, hmake, rfl⟩,
        gives_bind.2 ⟨b.manifest, v, gives_adapt.2 hmanifest,
          gives_bind.2 ⟨⟨⟩, w', ?_, gives_pure.2 ⟨rfl, rfl⟩⟩⟩⟩⟩⟩⟩
  rwa [hb.shardIds]

/-- What an export left on the disk: the index as it was, and the search data files of its shards,
which are all the files of their directory. -/
structure Exported (b : Build) (dir js : Path) (d d' : Disk) : Prop where
  kept : Kept d d'
  stored : Stored b dir d'
  holds : ∀ s ∈ b.shards, Holds d' (exportPath js s) (encodeText (SearchData.render s))
  file_iff : ∀ rest content, d'.tree.find? (placeOf d' js ++ rest) = some (.file content) ↔
    ∃ s ∈ b.shards, rest = [SearchData.fileName s.id] ∧ content = encodeText (SearchData.render s)

theorem exported_of_gives (hb : b.Built) (hr : Rooted w.disk) (h : Stored b dir w.disk)
    (hfresh : Fresh w.disk js) (hx : Gives (runExport dir (some js)) w output w') :
    Exported b dir js w.disk w'.disk := by
  obtain ⟨v, hmake, hwrite⟩ := exists_of_gives_runExport hb hr h hx
  have hgrown : Grown w.disk v.disk := (always_onDisk (grown_makeDirectories js)).of_gives hmake
  have hr' := hgrown.kept.rooted hr
  obtain ⟨hedited, hholds⟩ := edited_writeSearchData hb (.refl _) hr' hwrite
  have hkept := hgrown.kept.trans hedited.kept
  have hplace : ∀ s ∈ b.shards, filePlace w'.disk js (SearchData.fileName s.id) =
      placeOf w'.disk (exportPath js s) := fun s hs => (placeOf_exportPath hb hs _ js).symm
  refine ⟨hkept, stored_of_writeSearchData (h.of_grown hgrown) hb (.refl _) hr' hwrite, hholds,
    fun rest content => ⟨fun hc => ?_, ?_⟩⟩
  · -- The directory had no files, so each is one of those that were written.
    by_cases hrest : placeOf w'.disk js ++ rest ∈ exportPlaces b v.disk js
    · obtain ⟨s, hs, heq⟩ := List.mem_map.1 hrest
      rw [← placeOf_of_kept hedited.kept, ← hplace s hs] at heq
      have hname := (List.append_cancel_left heq).symm
      have hfile := (hholds s hs).find?_resolve (hkept.rooted hr)
      rw [show (w'.disk.resolve (exportPath js s)).names = _ from (hplace s hs).symm, filePlace,
        ← hname, hc] at hfile
      exact ⟨s, hs, hname, Node.file.inj (Option.some.inj hfile)⟩
    · rw [hedited.frame _ hrest] at hc
      rw [placeOf_of_kept hkept] at hc
      exact absurd (hgrown.file _ _ hc) (hfresh rest content)
  · rintro ⟨s, hs, rfl, rfl⟩
    have hfile := (hholds s hs).find?_resolve (hkept.rooted hr)
    rwa [show (w'.disk.resolve (exportPath js s)).names = _ from (hplace s hs).symm] at hfile

/-- An export into a directory that is there makes no directory. -/
theorem edited_of_gives_runExport (hb : b.Built) (hr : Rooted w.disk)
    (h : Stored b dir w.disk) (hclear : Clear w.disk js)
    (hx : Gives (runExport dir (some js)) w output w') :
    Edited (exportPlaces b w.disk js) w.disk w'.disk := by
  obtain ⟨v, hmake, hwrite⟩ := exists_of_gives_runExport hb hr h hx
  obtain rfl := hclear.eq_of_gives_makeDirectories hmake
  exact (edited_writeSearchData hb (.refl _) hr hwrite).1

end SymbolIndex.CommandLine
