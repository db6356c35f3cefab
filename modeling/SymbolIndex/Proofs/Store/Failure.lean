import SymbolIndex.Proofs.Store.ReadBack

/-!
# Writes that fail

A write over an index that is stored can fail at a shard, at a removal or at the manifest
(`fails_write_iff_of_stored`). Nothing is undone then. Unless the device runs full in the middle of
the manifest, the manifest is that of the earlier index, but the shards before the failure have
their new documents, and of the others some may be lost (`Torn`, `Missing`). So what is served is
a mix of two indexes (`failed_write_serves_both`).
-/

namespace SymbolIndex.Store

open File SymbolIndex.Effect World

variable {old b : Build} {done rest : List Shard} {ids lost : List String} {w w' : World} {out : Path}
  {d d' : Disk} {e : Error} {m : Manifest} {s t : Shard} {id : String} {places : List Location}

/-! ### Where a write can fail -/

theorem fails_writeManifest (hr : Rooted w.disk) (h : Fails (writeManifest m out) w e w') :
    w' = w ∨ e = .file .deviceFull ∧
      Edited [placeOf w.disk (manifestPath out)] w.disk w'.disk ∧
      CutShort w'.disk (manifestPath out) m.render := by
  unfold writeManifest at h
  dsimp only at h
  rcases fails_unless.1 h with ⟨_, _, rfl⟩ | ⟨_, h⟩
  · exact .inl rfl
  · exact cut_of_fails_writeText hr h

/-- A file that cannot be removed stays. -/
theorem disk_of_fails_removeStale (h : Fails (removeStale out id) w e w') : w'.disk = w.disk := by
  unfold removeStale at h
  rcases fails_bind.1 h with h | ⟨found, u, hexist, h⟩
  · exact (always_onDisk (onlyLooks_doesExist _)).of_fails h
  rw [← (always_onDisk (onlyLooks_doesExist _)).of_gives hexist]
  cases found with
  | false => exact absurd h not_fails_pure
  | true =>
    rcases fails_bind.1 h with h | ⟨_, v, hnote, h⟩
    · exact absurd h not_fails_modify
    obtain rfl := gives_modify.1 hnote
    obtain ⟨_, d, hremove, _, rfl⟩ := fails_onDisk.1 h
    exact eq_of_fails_remove hremove

/-- The directory of a stored index is there. -/
theorem Stored.gives_makeDirectories (h : Stored b out w.disk) :
    Gives (onDisk Error.file (File.Effect.makeDirectories out)) w ⟨⟩ w := by
  have hmake := h.manifest.gives_makeDirectories
  rw [manifestPath, Path.parent_child out plainName_manifest] at hmake
  exact gives_onDisk.2 ⟨w.disk, hmake, rfl⟩

theorem Stored.gives_previousIds (h : Stored b out w.disk) (hr : Rooted w.disk) :
    Gives (previousIds out) w b.manifest.shardIds w := by
  have hreaches := h.manifest.reaches
  obtain ⟨ids, hids⟩ := exists_gives_previousIds hr hreaches
    fun content hc => ⟨b.manifest, h.read_manifest hr hc⟩
  rw [Store.gives_previousIds hr hreaches hids, h.listedIds_eq hr] at hids
  exact hids

/-- Over an index that is stored, a write fails at a shard, at a removal or at the manifest. -/
theorem fails_write_iff_of_stored (h : Stored old out w.disk) (hr : Rooted w.disk) :
    Fails (write b out) w e w' ↔ Fails (writeShards b out) w e w' ∨
      ∃ u, Gives (writeShards b out) w ⟨⟩ u ∧
        (Fails ((staleIds b old.manifest.shardIds).forM (removeStale out)) u e w' ∨
          ∃ v, Gives ((staleIds b old.manifest.shardIds).forM (removeStale out)) u ⟨⟩ v ∧
            Fails (writeManifest b.manifest out) v e w') := by
  unfold write
  rw [fails_bind_of_gives h.gives_makeDirectories, fails_bind_of_gives (h.gives_previousIds hr)]
  have hlast : ∀ v, Fails (do
      writeManifest b.manifest out
      return b.shards.map (fun s => shardPath out s.id) ++ [manifestPath out]) v e w' ↔
      Fails (writeManifest b.manifest out) v e w' := by
    intro v
    rw [fails_bind]
    exact or_iff_left fun ⟨_, _, _, hend⟩ => not_fails_pure hend
  constructor
  · intro hfails
    rcases fails_bind.1 hfails with hfails | ⟨_, u, hshards, hfails⟩
    · exact .inl hfails
    rcases fails_bind.1 hfails with hfails | ⟨_, v, hstale, hfails⟩
    · exact .inr ⟨u, hshards, .inl hfails⟩
    · exact .inr ⟨u, hshards, .inr ⟨v, hstale, (hlast v).1 hfails⟩⟩
  · rintro (hfails | ⟨u, hshards, hfails | ⟨v, hstale, hfails⟩⟩)
    · exact fails_bind.2 (.inl hfails)
    · exact fails_bind.2 (.inr ⟨⟨⟩, u, hshards, fails_bind.2 (.inl hfails)⟩)
    · exact fails_bind.2 (.inr ⟨⟨⟩, u, hshards,
        fails_bind.2 (.inr ⟨⟨⟩, v, hstale, (hlast v).2 hfails⟩)⟩)

/-! ### What a failure leaves -/

/-- The manifest of an index, the new documents of some shards, and the documents that the other
shards of the index had, but for those that are lost. -/
structure Torn (old : Build) (done : List Shard) (lost : List String) (out : Path) (d : Disk) :
    Prop where
  manifest : Holds d (manifestPath out) (encodeText old.manifest.render)
  written : ∀ t ∈ done, Holds d (shardPath out t.id) (encodeText t.render)
  kept : ∀ s ∈ old.shards, s.id ∉ done.map (·.id) → s.id ∉ lost →
    Holds d (shardPath out s.id) (encodeText s.render)

/-- How the document of an earlier shard is lost: its file is removed, after all new shards were
written, or the device is full before the new document in its place is complete. -/
inductive Missing (b : Build) (rest : List Shard) (out : Path) (d : Disk) (e : Error) (id : String) :
    Prop where
  | removed (all : rest = []) (stale : id ∉ b.manifest.shardIds)
      (gone : d.tree.find? (placeOf d (shardPath out id)) = none)
  | cut (t : Shard) (next : rest.head? = some t) (same : t.id = id) (full : e = .file .deviceFull)
      (part : CutShort d (shardPath out id) t.render)

/-- Shards of two builds have one place only if they have one id. -/
theorem id_eq_of_placeOf_eq (hold : old.Built) (hb : b.Built) (hs : s ∈ old.shards)
    (ht : t ∈ b.shards) (h : placeOf d (shardPath out t.id) = placeOf d (shardPath out s.id)) :
    t.id = s.id := by
  rw [placeOf_shardPath hold d out hs, placeOf_shardPath hb d out ht] at h
  exact fileName_injective (filePlace_injective d out h)

theorem manifestPlace_ne (hb : b.Built) (ht : t ∈ b.shards) (d : Disk) (out : Path) :
    placeOf d (manifestPath out) ≠ placeOf d (shardPath out t.id) :=
  fun h => manifestPlace_not_mem hb d out (List.mem_map.2 ⟨t, ht, h.symm⟩)

/-- What changes at places of earlier shards alone loses those shards. -/
theorem Torn.of_edited (h : Torn old done [] out d) (hr : Rooted d) (he : Edited places d d')
    (hmanifest : placeOf d (manifestPath out) ∉ places)
    (hdone : ∀ t ∈ done, placeOf d (shardPath out t.id) ∉ places)
    (hlost : ∀ s ∈ old.shards, placeOf d (shardPath out s.id) ∈ places → s.id ∈ lost) :
    Torn old done lost out d' where
  manifest := h.manifest.of_edited hr he hmanifest
  written t ht := (h.written t ht).of_edited hr he (hdone t ht)
  kept s hs hnot hkeeps := (h.kept s hs hnot List.not_mem_nil).of_edited hr he
    fun hmem => hkeeps (hlost s hs hmem)

/-- The first shards of a build are written over an index. -/
theorem Stored.torn (h : Stored old out w.disk) (hold : old.Built) (hb : b.Built)
    (hr : Rooted w.disk) (hdone : done <+: b.shards)
    (hwrite : Gives (done.forM fun s => writeText Error.file (shardPath out s.id) s.render)
      w ⟨⟩ w') :
    Torn old done [] out w'.disk ∧ Kept w.disk w'.disk := by
  have hnodup : (done.map fun s => placeOf w.disk (shardPath out s.id)).Nodup :=
    (nodup_shardPlaces hb w.disk out).sublist (hdone.map _).sublist
  obtain ⟨hedited, hwritten⟩ := gives_forM_writeText hr hnodup hwrite
  refine ⟨⟨?_, hwritten, fun s hs hnot _ => ?_⟩, hedited.kept⟩
  · refine h.manifest.of_edited hr hedited fun hmem => ?_
    obtain ⟨t, ht, heq⟩ := List.mem_map.1 hmem
    exact manifestPlace_ne hb (hdone.subset ht) _ _ heq.symm
  · refine (h.shard s hs).of_edited hr hedited fun hmem => hnot ?_
    obtain ⟨t, ht, heq⟩ := List.mem_map.1 hmem
    rw [← id_eq_of_placeOf_eq hold hb hs (hdone.subset ht) heq]
    exact List.mem_map_of_mem ht

/-- The device is full before a shard is complete. -/
theorem Torn.cut (h : Torn old done [] out d) (hold : old.Built) (hb : b.Built) (hr : Rooted d)
    (hshards : b.shards = done ++ t :: rest)
    (he : Edited [placeOf d (shardPath out t.id)] d d') : Torn old done [t.id] out d' := by
  have ht : t ∈ b.shards := by simp [hshards]
  refine h.of_edited hr he ?_ (fun x hx hmem => ?_) fun s hs hmem => ?_
  · exact List.mem_singleton.not.2 (manifestPlace_ne hb ht d out)
  · have hx' : x ∈ b.shards := by simp [hshards, hx]
    have hid := id_eq_of_placeOf_eq hb hb ht hx' (List.mem_singleton.1 hmem)
    have hnodup := hb.nodup_ids
    rw [hshards, List.map_append, List.nodup_append] at hnodup
    exact hnodup.2.2 _ (List.mem_map_of_mem hx) _ (by simp) hid
  · rw [id_eq_of_placeOf_eq hold hb hs ht (List.mem_singleton.1 hmem).symm]
    exact List.mem_singleton_self _

/-- Some stale shards of the earlier index are removed after all shards are written. -/
theorem Torn.removed (h : Torn old b.shards [] out w.disk) (hold : old.Built) (hb : b.Built)
    (hr : Rooted w.disk) (hstale : ids ⊆ staleIds b old.manifest.shardIds)
    (hremove : Gives (ids.forM (removeStale out)) w ⟨⟩ w') :
    Torn old b.shards ids out w'.disk ∧ Kept w.disk w'.disk ∧
      ∀ id ∈ ids, Missing b [] out w'.disk e id := by
  obtain ⟨hremoved, hgone⟩ := gives_forM_removeStale hr hremove
  -- A stale id is that of a shard of the earlier index, and of none of the new one.
  have hshard : ∀ {id}, id ∈ ids → id ∉ b.manifest.shardIds ∧ ∃ s ∈ old.shards, s.id = id :=
    fun hid => (mem_staleIds.1 (hstale hid)).symm.imp_right hold.mem_shardIds.1
  refine ⟨h.of_edited hr hremoved.toEdited ?_ (fun t ht hmem => ?_) (fun s hs hmem => ?_),
    hremoved.kept, fun id hid => ?_⟩
  · intro hmem
    obtain ⟨id, hid, heq⟩ := List.mem_map.1 hmem
    obtain ⟨-, s, hs, rfl⟩ := hshard hid
    exact manifestPlace_ne hold hs _ _ heq.symm
  · obtain ⟨id, hid, heq⟩ := List.mem_map.1 hmem
    obtain ⟨hnew, s, hs, rfl⟩ := hshard hid
    exact hnew (hb.mem_shardIds.2 ⟨t, ht, id_eq_of_placeOf_eq hold hb hs ht heq.symm⟩)
  · obtain ⟨id, hid, heq⟩ := List.mem_map.1 hmem
    obtain ⟨-, s', hs', rfl⟩ := hshard hid
    rwa [← id_eq_of_placeOf_eq hold hold hs hs' heq]
  · obtain ⟨hnew, s, hs, rfl⟩ := hshard hid
    refine .removed rfl hnew ?_
    rw [placeOf_of_kept hremoved.kept]
    rw [hb.shardIds] at hnew
    exact hgone s.id hid (h.kept s hs hnew List.not_mem_nil).reaches

/-- A write that fails over an index leaves it torn, or the device took only a first part of the
new manifest. -/
theorem torn_of_fails (h : Stored old out w.disk) (hold : old.Built) (hb : b.Built)
    (hr : Rooted w.disk) (hfails : Fails (write b out) w e w') :
    Kept w.disk w'.disk ∧
      ((∃ done rest lost, b.shards = done ++ rest ∧ Torn old done lost out w'.disk ∧
          ∀ id ∈ lost, Missing b rest out w'.disk e id) ∨
        e = .file .deviceFull ∧ CutShort w'.disk (manifestPath out) b.manifest.render ∧
          ∀ t ∈ b.shards, Holds w'.disk (shardPath out t.id) (encodeText t.render)) := by
  rcases (fails_write_iff_of_stored h hr).1 hfails with hfails | ⟨u, hshards, hfails⟩
  · obtain ⟨done, t, rest, v, heq, hdone, hfails⟩ := exists_of_fails_forM hfails
    obtain ⟨htorn, hkept⟩ := h.torn hold hb hr ⟨t :: rest, heq.symm⟩ hdone
    have hrv := hkept.rooted hr
    rcases cut_of_fails_writeText hrv hfails with rfl | ⟨hfull, hedited, hcut⟩
    · exact ⟨hkept, .inl ⟨done, t :: rest, [], heq, htorn, nofun⟩⟩
    · refine ⟨hkept.trans hedited.kept,
        .inl ⟨done, t :: rest, [t.id], heq, htorn.cut hold hb hrv heq hedited, fun id hid => ?_⟩⟩
      obtain rfl := List.mem_singleton.1 hid
      exact .cut t rfl rfl hfull hcut
  obtain ⟨htorn, hkept⟩ := h.torn hold hb hr List.prefix_rfl hshards
  have hru := hkept.rooted hr
  have hall : b.shards = b.shards ++ [] := (List.append_nil _).symm
  rcases hfails with hfails | ⟨v, hremove, hfails⟩
  · obtain ⟨ids, id, later, v, heq, hremove, hfails⟩ := exists_of_fails_forM hfails
    have hsub : ids ⊆ staleIds b old.manifest.shardIds := by simp [heq]
    obtain ⟨htorn', hkept', hmissing⟩ := htorn.removed hold hb hru hsub hremove
    rw [disk_of_fails_removeStale hfails]
    exact ⟨hkept.trans hkept', .inl ⟨b.shards, [], ids, hall, htorn', hmissing⟩⟩
  · obtain ⟨htorn', hkept', hmissing⟩ := htorn.removed hold hb hru (List.Subset.refl _) hremove
    have hkept := hkept.trans hkept'
    have hrv := hkept.rooted hr
    rcases fails_writeManifest hrv hfails with rfl | ⟨hfull, hedited, hcut⟩
    · exact ⟨hkept, .inl ⟨b.shards, [], _, hall, htorn', hmissing⟩⟩
    · refine ⟨hkept.trans hedited.kept, .inr ⟨hfull, hcut, fun t ht => ?_⟩⟩
      exact (htorn'.written t ht).of_edited hrv hedited
        (List.mem_singleton.not.2 (manifestPlace_ne hb ht _ _).symm)

/-- A write that fails over an index leaves its manifest, unless the device is full before the new
manifest is complete. Some first shards of the new build were written. Each shard of the old index
is still read, as the new one if that was written, and else as it was, unless it is lost. Texts have
no surrogates here; one without bytes would leave its file empty. -/
theorem failed_write_serves_both (hold : old.Built) (hb : b.Built) (hr : Rooted w.disk)
    (hstored : Stored old out w.disk) (hshort : Short old out w.disk)
    (hfails : Fails (write b out) w e w') :
    (∃ done rest source, b.shards = done ++ rest ∧ Gives (openIndex out) w' source w' ∧
        source.manifest = old.manifest ∧
        ∀ s ∈ old.shards, (∀ t ∈ done, t.id = s.id → LoadsAs source t) ∧
          (s.id ∉ done.map (·.id) → LoadsAs source s ∨ Missing b rest out w'.disk e s.id)) ∨
      e = .file .deviceFull ∧ CutShort w'.disk (manifestPath out) b.manifest.render ∧
        ∀ t ∈ b.shards, Holds w'.disk (shardPath out t.id) (encodeText t.render) := by
  obtain ⟨hkept, ⟨done, rest, lost, hshards, htorn, hmissing⟩ | hcut⟩ :=
    torn_of_fails hstored hold hb hr hfails
  · have hr' := hkept.rooted hr
    have hshort' := hshort.of_kept hkept
    have hfetch : ∀ t : Shard, t.WellFormed → (∃ s ∈ old.shards, t.id = s.id) →
        Holds w'.disk (shardPath out t.id) (encodeText t.render) →
        LoadsAs (Store.source w'.disk (w'.disk.resolve out) old.manifest) t := by
      rintro t hwell ⟨s, hs, hid⟩ hholds
      refine ⟨t.render, fetch_of_holds hr' ?_ hholds ?_, Shard.read_render hwell⟩
      · rw [hid]
        exact plainName_of_mem_names hold (List.mem_map_of_mem (shardFile_mem hs))
      · rw [hid]
        exact hshort'.shard hs
    refine .inl ⟨done, rest, _, hshards,
      gives_openIndex hr' hstored.numbers htorn.manifest hshort'.manifest, rfl,
      fun s hs => ⟨fun t ht hid => ?_, fun hnot => ?_⟩⟩
    · have ht' : t ∈ b.shards := by simp [hshards, ht]
      exact hfetch t (hb.wellFormed ht') ⟨s, hs, hid⟩ (htorn.written t ht)
    · by_cases hlost : s.id ∈ lost
      · exact .inr (hmissing s.id hlost)
      · exact .inl (hfetch s (hold.wellFormed hs) ⟨s, hs, rfl⟩ (htorn.kept s hs hnot hlost))
  · exact .inr hcut

/-! ### A directory in the way of a shard -/

def oldRecords : List Record := [.ofText "" "alpha" [⟨"old.html", "old"⟩]]

def newRecords : List Record :=
  [.ofText "" "alpha" [⟨"new.html", "new"⟩], .ofText "" "beta" [⟨"b.html", "b"⟩]]

def oldShard : Shard := ⟨"a", [⟨"alpha", "alpha", [⟨"old.html", "old"⟩]⟩]⟩

def newShard : Shard := ⟨"a", [⟨"alpha", "alpha", [⟨"new.html", "new"⟩]⟩]⟩

def otherShard : Shard := ⟨"b", [⟨"beta", "beta", [⟨"b.html", "b"⟩]⟩]⟩

def oldBuild : Build := .lenient .alpha oldRecords

def newBuild : Build := .lenient .alpha newRecords

theorem shards_oldBuild : oldBuild.shards = [oldShard] := by decide +kernel

theorem oldShard_mem : oldShard ∈ oldBuild.shards := by
  rw [shards_oldBuild]
  exact List.mem_cons_self

theorem shards_newBuild : newBuild.shards = [newShard, otherShard] := by
  have hentries : Build.mergeAll (Build.validEntries newRecords) =
      newShard.entries ++ otherShard.entries := by decide +kernel
  have hids : (((newShard.entries ++ otherShard.entries).map fun e =>
      Partition.alpha.idOf e.key.toList).eraseDups.map fun id => (Partition.alpha.orderOf id, id)) =
        [(0, "a"), (1, "b")] := by decide +kernel
  rw [newBuild, Build.shards_lenient, hentries, Build.divide]
  simp only [hids]
  rw [List.mergeSort_of_pairwise (by decide)]
  decide +kernel

/-- The first index in a directory, where another directory has the name of the shard `b`. -/
def blockedWorld : World where
  disk :=
    { tree := ⟨[(["idx"], .directory), (["idx", "a.json"], .file (encodeText oldShard.render)),
        (["idx", "index.json"], .file (encodeText oldBuild.manifest.render)),
        (["idx", "b.json"], .directory)]⟩
      cwd := [] }
  log := []

theorem rooted_blocked : Rooted blockedWorld.disk := ⟨standing_nil _, nofun⟩

theorem short_blocked : Short oldBuild (.ofString "idx") blockedWorld.disk := by
  unfold Short
  decide +kernel

theorem stored_blocked : Stored oldBuild (.ofString "idx") blockedWorld.disk where
  numbers := Manifest.isPrintable_iff.1 (by decide +kernel)
  manifest := ⟨by decide +kernel, ["idx", "index.json"], rfl, rfl⟩
  shard s hs := by
    rw [shards_oldBuild] at hs
    obtain rfl := List.mem_singleton.1 hs
    exact ⟨by decide +kernel, ["idx", "a.json"], rfl, rfl⟩

/-- The file of the second shard cannot be written. -/
def blockedError : Error := .file (.refused .isDirectory "idx/b.json")

/-- The first shard is written, and the second cannot be. -/
theorem exists_fails_blocked :
    ∃ w', Fails (write newBuild (.ofString "idx")) blockedWorld blockedError w' ∧
      Kept blockedWorld.disk w'.disk ∧
      Holds w'.disk (shardPath (.ofString "idx") newShard.id) (encodeText newShard.render) := by
  have htakes : Takes blockedWorld.disk (shardPath (.ofString "idx") newShard.id) := by
    obtain ⟨hn, l, hl, hdir⟩ := (stored_blocked.shard oldShard oldShard_mem).reaches
    exact ⟨hn, l, hl, hdir, rfl⟩
  obtain ⟨w', hwrite⟩ : ∃ w', Gives (writeText Error.file (shardPath (.ofString "idx") newShard.id)
      newShard.render) blockedWorld ⟨⟩ w' := exists_gives_writeText _ htakes
  obtain ⟨hedited, hholds⟩ := gives_writeText rooted_blocked hwrite
  have hblocked : Fails (writeText Error.file (shardPath (.ofString "idx") otherShard.id)
      otherShard.render) w' blockedError w' :=
    fails_onDisk.2 ⟨_, _, fails_write_of_directory (l := ["idx", "b.json"]) (by decide +kernel)
      (hedited.kept.locate rfl) ((hedited.directory _).2 rfl), rfl, rfl⟩
  refine ⟨w', ?_, hedited.kept, hholds⟩
  refine (fails_write_iff_of_stored stored_blocked rooted_blocked).2 (.inl ?_)
  unfold writeShards
  rw [shards_newBuild]
  exact fails_forM_cons.2 (.inr ⟨w', hwrite, fails_forM_cons.2 (.inl hblocked)⟩)

theorem failed_write_serves_both_blocked :
    ∃ w' source, Stored oldBuild (.ofString "idx") blockedWorld.disk ∧
      Fails (write newBuild (.ofString "idx")) blockedWorld blockedError w' ∧
      Gives (openIndex (.ofString "idx")) w' source w' ∧ source.manifest = oldBuild.manifest ∧
      (LoadsAs source newShard ∨ LoadsAs source oldShard) := by
  obtain ⟨w', hfails, _⟩ := exists_fails_blocked
  rcases failed_write_serves_both (Build.built_lenient _ _) (Build.built_lenient _ _) rooted_blocked
    stored_blocked short_blocked hfails with
    ⟨done, rest, source, hshards, hopen, hmanifest, hserves⟩ | ⟨hfull, _⟩
  · refine ⟨w', source, stored_blocked, hfails, hopen, hmanifest, ?_⟩
    obtain ⟨hnew, hkept⟩ := hserves oldShard oldShard_mem
    by_cases hmem : newShard ∈ done
    · exact .inl (hnew newShard hmem rfl)
    -- The first shard to be written is that of the id `a`, so none was written, and none is lost.
    have hshards := shards_newBuild.symm.trans hshards
    cases done with
    | cons t done =>
      rw [List.cons_append, List.cons.injEq] at hshards
      exact absurd (hshards.1 ▸ List.mem_cons_self) hmem
    | nil =>
      obtain rfl : rest = [newShard, otherShard] := hshards.symm
      rcases hkept List.not_mem_nil with hloads | hmissing
      · exact .inr hloads
      · cases hmissing with
        | removed all => cases all
        | cut _ _ _ full => exact absurd full nofun
  · exact absurd hfull nofun

/-- After a write that failed, the old manifest is served with a shard of the new build. -/
theorem failed_write_tears_index :
    ∃ w' source, Stored oldBuild (.ofString "idx") blockedWorld.disk ∧
      Fails (write newBuild (.ofString "idx")) blockedWorld blockedError w' ∧
      Gives (openIndex (.ofString "idx")) w' source w' ∧
      source.manifest = oldBuild.manifest ∧ ¬ ReadsBack source oldBuild := by
  obtain ⟨w', hfails, hkept, hholds⟩ := exists_fails_blocked
  have hr' := hkept.rooted rooted_blocked
  have hshort' := short_blocked.of_kept hkept
  obtain ⟨-, ⟨_, _, _, -, htorn, -⟩ | ⟨hfull, _⟩⟩ := torn_of_fails stored_blocked
    (Build.built_lenient _ _) (Build.built_lenient _ _) rooted_blocked hfails
  case inr => exact absurd hfull nofun
  have hnew : newShard ∈ newBuild.shards := by
    rw [shards_newBuild]
    exact List.mem_cons_self
  refine ⟨w', _, stored_blocked, hfails,
    gives_openIndex hr' stored_blocked.numbers htorn.manifest hshort'.manifest, rfl, fun hback => ?_⟩
  -- The file of the shard `a` is read as the new shard.
  obtain ⟨text, hfetch, hread⟩ := hback.2 oldShard oldShard_mem
  have hlen : (w'.disk.resolve (shardPath (.ofString "idx") newShard.id)).toString.utf8ByteSize ≤
      Disk.maxPathLength := hshort'.shard (s := oldShard) oldShard_mem
  have hname : PlainName (Shard.fileName newShard.id) :=
    plainName_of_mem_names (Build.built_lenient _ _) (List.mem_map_of_mem (shardFile_mem hnew))
  have hfetch' := fetch_of_holds (m := oldBuild.manifest) hr' hname hholds hlen
  obtain rfl : text = newShard.render := Except.ok.inj (hfetch.symm.trans hfetch')
  rw [Shard.read_render ((Build.built_lenient _ _).wellFormed hnew)] at hread
  exact absurd (Except.ok.inj hread) (by decide)

end SymbolIndex.Store
