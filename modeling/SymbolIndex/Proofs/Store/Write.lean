import SymbolIndex.Proofs.Build.Layout
import SymbolIndex.Proofs.File.Path
import SymbolIndex.Proofs.Manifest.Codec
import SymbolIndex.Proofs.World
import SymbolIndex.Store

/-!
# Writing an index

`gives_write_iff` takes a write that succeeded apart into its steps: the directory is made, the
manifest of an earlier index is read, the shards are written, the files of shards that are no
longer listed are removed, and the manifest is written. The lemmas before it say what each step
does to the disk.
-/

namespace SymbolIndex.Store

open File SymbolIndex.Effect World

variable {p : Partition} {b : Build} {w w' : World} {out : Path} {d d' : Disk} {id name : String}
  {ids : List String} {s : Shard}

/-! ### Names of files -/

theorem plainName_of_slash (h : '/' ∉ id.toList) : PlainName (Shard.fileName id) := by
  have hlist : (Shard.fileName id).toList = id.toList ++ ".json".toList := String.toList_append
  have hend : ".json".toList.length = 5 := by decide
  refine plainName_of_length ?_ ?_
  · rw [hlist, List.mem_append, not_or]
    exact ⟨h, by decide⟩
  · rw [hlist, List.length_append]
    omega

theorem plainName_manifest : PlainName Manifest.fileName :=
  ⟨by decide, by decide, by decide, by decide⟩

theorem slash_not_mem_of_mem_allIds (h : id ∈ p.allIds) : '/' ∉ id.toList :=
  fun hslash => absurd (Partition.isAlphanum_of_mem_allIds h hslash) (by decide)

theorem fileName_injective : Function.Injective Shard.fileName := by
  intro a b h
  have hlist := congrArg String.toList h
  rw [Shard.fileName, Shard.fileName, String.toList_append, String.toList_append,
    List.append_cancel_right_eq] at hlist
  exact String.toList_injective hlist

/-- No shard has the file name of the manifest. -/
theorem fileName_ne_manifest (h : id ∈ p.allIds) : Shard.fileName id ≠ Manifest.fileName := by
  intro heq
  have hid : id = "index" := fileName_injective heq
  subst hid
  cases p with
  | alpha => exact absurd h (by decide +kernel)
  | hashed count _ =>
    obtain ⟨bucket, _, hb⟩ := List.mem_map.1 h
    have hlist := congrArg String.toList hb
    rw [Partition.hashedId, String.toList_ofList] at hlist
    cases hlist

/-- The files of an index and their texts: the manifest and the shards. -/
def files (b : Build) : List (String × String) :=
  (Manifest.fileName, b.manifest.render) :: b.shards.map fun s => (Shard.fileName s.id, s.render)

def names (b : Build) : List String := (files b).map (·.1)

theorem names_eq (b : Build) :
    names b = Manifest.fileName :: b.shards.map fun s => Shard.fileName s.id := by
  rw [names, files, List.map_cons, List.map_map]
  rfl

theorem shardFile_mem (hs : s ∈ b.shards) : (Shard.fileName s.id, s.render) ∈ files b :=
  List.mem_cons_of_mem _ (List.mem_map_of_mem hs)

theorem plainName_of_mem_names (hb : b.Built) (h : name ∈ names b) : PlainName name := by
  rw [names_eq] at h
  rcases List.mem_cons.1 h with rfl | h
  · exact plainName_manifest
  · obtain ⟨s, hs, rfl⟩ := List.mem_map.1 h
    obtain ⟨p, hid⟩ := hb.exists_id_mem hs
    exact plainName_of_slash (slash_not_mem_of_mem_allIds hid)

theorem null_not_mem_of_mem_names (hb : b.Built) (h : name ∈ names b) : '\x00' ∉ name.toList := by
  rw [names_eq] at h
  rcases List.mem_cons.1 h with rfl | h
  · decide
  · obtain ⟨s, hs, rfl⟩ := List.mem_map.1 h
    obtain ⟨p, hid⟩ := hb.exists_id_mem hs
    rw [Shard.fileName, String.toList_append, List.mem_append, not_or]
    exact ⟨fun hnull => absurd (Partition.isAlphanum_of_mem_allIds hid hnull) (by decide), by decide⟩

theorem nodup_names (hb : b.Built) : (names b).Nodup := by
  rw [names_eq, List.nodup_cons]
  constructor
  · intro h
    obtain ⟨s, hs, heq⟩ := List.mem_map.1 h
    obtain ⟨p, hid⟩ := hb.exists_id_mem hs
    exact fileName_ne_manifest hid heq
  · have h := hb.nodup_ids.map fileName_injective
    rwa [List.map_map] at h

/-! ### Places of files -/

/-- The place that a path resolves to. -/
abbrev placeOf (d : Disk) (path : Path) : Location := (d.resolve path).names

/-- The place of a file of a directory. -/
def filePlace (d : Disk) (out : Path) (name : String) : Location := placeOf d out ++ [name]

theorem filePlace_injective (d : Disk) (out : Path) : Function.Injective (filePlace d out) :=
  fun _ _ h => List.singleton_inj.1 (List.append_cancel_left h)

theorem placeOf_child (d : Disk) (out : Path) (h : PlainName name) :
    placeOf d (out.child name) = filePlace d out name := by
  rw [placeOf, Path.resolve_child d out h]
  rfl

theorem placeOf_manifestPath (d : Disk) (out : Path) :
    placeOf d (manifestPath out) = filePlace d out Manifest.fileName :=
  placeOf_child d out plainName_manifest

theorem placeOf_shardPath (hb : b.Built) (d : Disk) (out : Path) (hs : s ∈ b.shards) :
    placeOf d (shardPath out s.id) = filePlace d out (Shard.fileName s.id) :=
  placeOf_child d out (plainName_of_mem_names hb (List.mem_map_of_mem (shardFile_mem hs)))

theorem placeOf_of_kept (h : Kept d d') (path : Path) : placeOf d' path = placeOf d path := by
  rw [placeOf, h.resolve]

/-- The places of the shards of a build. -/
def shardPlaces (b : Build) (d : Disk) (out : Path) : List Location :=
  b.shards.map fun s => placeOf d (shardPath out s.id)

/-- The places of the files of an index. -/
def indexPlaces (b : Build) (d : Disk) (out : Path) : List Location :=
  (names b).map (filePlace d out)

theorem indexPlaces_eq (hb : b.Built) (d : Disk) (out : Path) :
    indexPlaces b d out = placeOf d (manifestPath out) :: shardPlaces b d out := by
  rw [indexPlaces, names_eq, List.map_cons, List.map_map, placeOf_manifestPath, shardPlaces,
    List.map_congr_left fun s hs => placeOf_shardPath hb d out hs]
  rfl

theorem shardPlaces_of_kept (h : Kept d d') (b : Build) (out : Path) :
    shardPlaces b d' out = shardPlaces b d out :=
  List.map_congr_left fun s _ => placeOf_of_kept h (shardPath out s.id)

theorem nodup_indexPlaces (hb : b.Built) (d : Disk) (out : Path) : (indexPlaces b d out).Nodup :=
  (nodup_names hb).map (filePlace_injective d out)

theorem nodup_shardPlaces (hb : b.Built) (d : Disk) (out : Path) : (shardPlaces b d out).Nodup := by
  have h := nodup_indexPlaces hb d out
  rw [indexPlaces_eq hb] at h
  exact (List.nodup_cons.1 h).2

/-- No shard of a build has the place of the manifest. -/
theorem manifestPlace_not_mem (hb : b.Built) (d : Disk) (out : Path) :
    placeOf d (manifestPath out) ∉ shardPlaces b d out := by
  have h := nodup_indexPlaces hb d out
  rw [indexPlaces_eq hb] at h
  exact (List.nodup_cons.1 h).1

/-! ### The manifest of an earlier index -/

/-- The ids that the manifest in a directory lists, none if there is no manifest that can be
read. -/
def listedIds (d : Disk) (out : Path) : List String :=
  match d.tree.find? (placeOf d (manifestPath out)) with
  | some (.file content) =>
    match (File.decodeText content).toOption.map Manifest.read with
    | some (.ok m) => m.shardIds
    | _ => []
  | _ => []

/-- A directory that was made adds no manifest. -/
theorem listedIds_of_grown (h : Grown d d') : listedIds d' out = listedIds d out := by
  unfold listedIds placeOf
  rw [h.kept.resolve]
  cases hn : d.tree.find? (d.resolve (manifestPath out)).names with
  | some n => rw [h.node _ _ hn]
  | none =>
    cases hn' : d'.tree.find? (d.resolve (manifestPath out)).names with
    | none => rfl
    | some n =>
      cases n with
      | directory => rfl
      | file content =>
        have hback := h.file _ _ hn'
        rw [hn] at hback
        cases hback

/-- Looking for an earlier manifest leaves the disk as it is, however it ends. -/
theorem disk_previousIds (out : Path) : KeepsDisk (previousIds out) := by
  have hignore : KeepsDisk do
      note (ε := Error) logger .warning
        ("ignoring unreadable previous manifest at " ++ (manifestPath out).toString)
      return ([] : List String) :=
    chains_disk.bind (fun _ => rfl) fun _ => chains_disk.pure _
  unfold previousIds
  refine chains_disk.bind (always_onDisk (onlyLooks_doesExist _)) fun found => ?_
  split
  · refine chains_disk.bind (always_onDisk (onlyLooks_read _)) fun content => ?_
    split
    · exact chains_disk.pure _
    · exact chains_disk.throw _
    · exact hignore
  · exact chains_disk.pure _

/-- The ids are those listed, unless the path of the manifest cannot be written to. -/
theorem gives_previousIds (hr : Rooted w.disk) (hreaches : Reaches w.disk (manifestPath out))
    (h : Gives (previousIds out) w ids w') : ids = listedIds w.disk out := by
  obtain ⟨hn, l, hl, hdir⟩ := hreaches
  have hplace : placeOf w.disk (manifestPath out) = l := by rw [placeOf, (hr.locate hl).2]
  unfold previousIds at h
  obtain ⟨found, w₁, hexist, h⟩ := gives_bind.1 h
  obtain ⟨rfl, rfl⟩ := (gives_onDisk_doesExist hn hl).unique hexist
  unfold listedIds
  rw [hplace]
  cases hc : w.disk.tree.find? l with
  | none =>
    rw [hc] at h
    exact (gives_pure.1 h).1.symm
  | some n =>
    cases n with
    | directory => exact absurd hc hdir
    | file content =>
      rw [hc] at h
      obtain ⟨content', w₂, hread, h⟩ := gives_bind.1 h
      obtain ⟨d, hlooked, rfl⟩ := gives_onDisk.1 hread
      obtain ⟨_, rfl, l', hl', hc'⟩ := gives_read.1 hlooked
      obtain rfl := Except.ok.inj (hl.symm.trans hl')
      obtain rfl := Node.file.inj (Option.some.inj (hc.symm.trans hc'))
      dsimp only
      split at h
      · rename_i hm
        rw [hm]
        exact (gives_pure.1 h).1.symm
      · exact absurd h not_gives_throw
      · rename_i hm _
        obtain ⟨_, _, _, h⟩ := gives_bind.1 h
        obtain ⟨rfl, _⟩ := gives_pure.1 h
        split
        · exact absurd ‹_› (hm _)
        · rfl

theorem exists_gives_previousIds (hr : Rooted w.disk) (hreaches : Reaches w.disk (manifestPath out))
    (hread : ∀ content, w.disk.tree.find? (placeOf w.disk (manifestPath out)) = some (.file content) →
      ∃ m, (File.decodeText content).toOption.map Manifest.read = some (.ok m)) :
    ∃ ids, Gives (previousIds out) w ids w := by
  obtain ⟨hn, l, hl, hdir⟩ := hreaches
  have hplace : placeOf w.disk (manifestPath out) = l := by rw [placeOf, (hr.locate hl).2]
  have hexist : Gives (onDisk Error.file (File.Effect.doesExist (manifestPath out))) w
    (w.disk.tree.find? l).isSome w := gives_onDisk_doesExist hn hl
  unfold previousIds
  simp only [gives_bind]
  cases hc : w.disk.tree.find? l with
  | none =>
    rw [hc] at hexist
    exact ⟨[], _, w, hexist, gives_pure.2 ⟨rfl, rfl⟩⟩
  | some n =>
    cases n with
    | directory => exact absurd hc hdir
    | file content =>
      rw [hc] at hexist
      obtain ⟨m, hm⟩ := hread content (hplace ▸ hc)
      have hholds : Holds w.disk (manifestPath out) content := ⟨hn, l, hl, hc⟩
      refine ⟨m.shardIds, _, w, hexist, gives_bind.2 ⟨_, w, hholds.gives_read, ?_⟩⟩
      rw [hm]
      exact gives_pure.2 ⟨rfl, rfl⟩

/-! ### Shards that are no longer listed -/

/-- The ids of an earlier manifest that a build does not have. -/
def staleIds (b : Build) (ids : List String) : List String :=
  ids.filter fun id => id ∉ b.manifest.shardIds

theorem mem_staleIds : id ∈ staleIds b ids ↔ id ∈ ids ∧ id ∉ b.manifest.shardIds := by
  rw [staleIds, List.mem_filter, decide_eq_true_eq]

/-- The places that the files of some ids would have. -/
def placesOf (ids : List String) (d : Disk) (out : Path) : List Location :=
  ids.map fun id => placeOf d (shardPath out id)

theorem placesOf_of_kept (h : Kept d d') (ids : List String) (out : Path) :
    placesOf ids d' out = placesOf ids d out :=
  List.map_congr_left fun id _ => placeOf_of_kept h (shardPath out id)

theorem gives_removeStale {u : Unit} (hr : Rooted w.disk)
    (h : Gives (removeStale out id) w u w') :
    Removed [placeOf w.disk (shardPath out id)] w.disk w'.disk ∧
      (Reaches w.disk (shardPath out id) →
        w'.disk.tree.find? (placeOf w.disk (shardPath out id)) = none) := by
  unfold removeStale at h
  obtain ⟨found, w₁, hexist, h⟩ := gives_bind.1 h
  obtain ⟨d, hexist', rfl⟩ := gives_onDisk.1 hexist
  obtain ⟨rfl, -⟩ := gives_doesExist hexist'
  cases found with
  | true =>
    obtain ⟨_, w₂, hnote, h⟩ := gives_bind.1 h
    obtain rfl := gives_modify.1 hnote
    obtain ⟨d, hremove, rfl⟩ := gives_onDisk.1 h
    obtain ⟨_, l, content, hl, hc, _, rfl⟩ := gives_remove.1 hremove
    have hplace : placeOf w.disk (shardPath out id) = l := by rw [placeOf, (hr.locate hl).2]
    have hfile : w.disk.tree.find? l ≠ some .directory := by
      rw [show w.disk.tree.find? l = some (.file content) from hc]
      nofun
    rw [hplace]
    exact ⟨removed_without hfile, fun _ => find?_without_self (ne_nil_of_not_directory hfile)⟩
  | false =>
    obtain ⟨_, rfl⟩ := gives_pure.1 h
    refine ⟨.refl _ _, ?_⟩
    rintro ⟨hn, l, hl, _⟩
    have hfound := (gives_doesExist_of_locate hn hl).unique hexist'
    rw [placeOf, (hr.locate hl).2]
    exact Option.not_isSome_iff_eq_none.1 (by rw [hfound.1]; exact Bool.false_ne_true)

theorem exists_gives_removeStale (h : Takes w.disk (shardPath out id)) :
    ∃ w', Gives (removeStale out id) w ⟨⟩ w' := by
  have htakes := h
  obtain ⟨hn, l, hl, hdir, _⟩ := h
  have hexist : Gives (onDisk Error.file (File.Effect.doesExist (shardPath out id))) w
    (w.disk.tree.find? l).isSome w := gives_onDisk_doesExist hn hl
  unfold removeStale
  simp only [gives_bind]
  cases hc : w.disk.tree.find? l with
  | none =>
    rw [hc] at hexist
    exact ⟨w, _, w, hexist, gives_pure.2 ⟨rfl, rfl⟩⟩
  | some n =>
    cases n with
    | directory => exact absurd hc hdir
    | file content =>
      rw [hc] at hexist
      let noted : World := { w with log := w.log ++
        [⟨logger, .debug, "removing stale shard " ++ (shardPath out id).toString⟩] }
      have hholds : Holds noted.disk (shardPath out id) content := ⟨hn, l, hl, hc⟩
      obtain ⟨w', hremove⟩ : ∃ w', Gives (onDisk Error.file
        (File.Effect.remove (shardPath out id))) noted ⟨⟩ w' := hholds.exists_gives_remove htakes
      exact ⟨w', _, w, hexist, gives_bind.2 ⟨⟨⟩, noted, gives_modify.2 rfl, hremove⟩⟩

/-- Shards that are removed one after the other. -/
theorem gives_forM_removeStale (hr : Rooted w.disk)
    (h : Gives (ids.forM (removeStale out)) w ⟨⟩ w') :
    Removed (placesOf ids w.disk out) w.disk w'.disk ∧
      ∀ id ∈ ids, Reaches w.disk (shardPath out id) →
        w'.disk.tree.find? (placeOf w.disk (shardPath out id)) = none := by
  induction ids generalizing w with
  | nil =>
    obtain rfl := gives_forM_nil.1 h
    exact ⟨.refl _ _, nofun⟩
  | cons id ids ih =>
    obtain ⟨v, hid, hrest⟩ := gives_forM_cons.1 h
    obtain ⟨hremoved, hgone⟩ := gives_removeStale hr hid
    have hkept := hremoved.kept
    obtain ⟨hremoved', hgone'⟩ := ih (hkept.rooted hr) hrest
    rw [placesOf_of_kept hkept] at hremoved'
    refine ⟨hremoved.trans hremoved', fun other hother hreaches => ?_⟩
    rcases List.mem_cons.1 hother with rfl | hother
    · exact hremoved'.find?_eq_none (hgone hreaches)
    · rw [← placeOf_of_kept hkept]
      exact hgone' other hother (hreaches.of_edited hremoved.toEdited)

theorem exists_gives_forM_removeStale (hr : Rooted w.disk)
    (h : ∀ id ∈ ids, Takes w.disk (shardPath out id)) :
    ∃ w', Gives (ids.forM (removeStale out)) w ⟨⟩ w' := by
  induction ids generalizing w with
  | nil => exact ⟨w, gives_forM_nil.2 rfl⟩
  | cons id ids ih =>
    obtain ⟨v, hid⟩ := exists_gives_removeStale (h id List.mem_cons_self)
    have hedited := (gives_removeStale hr hid).1.toEdited
    obtain ⟨w', hrest⟩ := ih (hedited.kept.rooted hr)
      fun other hother => (h other (List.mem_cons_of_mem _ hother)).of_edited hedited
    exact ⟨w', gives_forM_cons.2 ⟨v, hid, hrest⟩⟩

/-! ### The steps of a write -/

/-- What is done between the first and the last step. -/
def writeShards (b : Build) (out : Path) : Effect Error Unit :=
  b.shards.forM fun s => writeText Error.file (shardPath out s.id) s.render

theorem gives_writeManifest {m : Manifest} {u : Unit} :
    Gives (writeManifest m out) w u w' ↔
      m.Writable ∧ Gives (writeText Error.file (manifestPath out) m.render) w ⟨⟩ w' := by
  unfold writeManifest
  simp only
  rw [gives_unless, Bool.not_eq_false', Manifest.isPrintable_iff]

theorem gives_write_iff {paths : List Path} :
    Gives (write b out) w paths w' ↔ ∃ w₁ ids w₂ w₃ w₄,
      Gives (onDisk Error.file (File.Effect.makeDirectories out)) w ⟨⟩ w₁ ∧
      Gives (previousIds out) w₁ ids w₂ ∧
      Gives (writeShards b out) w₂ ⟨⟩ w₃ ∧
      Gives ((staleIds b ids).forM (removeStale out)) w₃ ⟨⟩ w₄ ∧
      Gives (writeManifest b.manifest out) w₄ ⟨⟩ w' ∧
      b.shards.map (fun s => shardPath out s.id) ++ [manifestPath out] = paths := by
  unfold write
  simp only [gives_bind, gives_pure]
  constructor
  · rintro ⟨_, w₁, hmake, ids, w₂, hids, _, w₃, hshards, _, w₄, hstale, _, _, hlast, hpaths, rfl⟩
    exact ⟨w₁, ids, w₂, w₃, w₄, hmake, hids, hshards, hstale, hlast, hpaths⟩
  · rintro ⟨w₁, ids, w₂, w₃, w₄, hmake, hids, hshards, hstale, hlast, hpaths⟩
    exact ⟨_, w₁, hmake, ids, w₂, hids, _, w₃, hshards, _, w₄, hstale, _, _, hlast, hpaths, rfl⟩

end SymbolIndex.Store
