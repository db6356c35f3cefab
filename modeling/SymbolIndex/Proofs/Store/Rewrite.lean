import SymbolIndex.Proofs.Store.Write

/-!
# An index over an earlier one

`Rewritten` says what a write that succeeded did to the disk: which files hold the new index,
which are gone, and that all others are what they were. A shard is stale if its id is not one of
the new index, but what is removed is a file: two ids can stand for one file, or for a file of
another directory, as soon as one of them contains a slash.
-/

namespace SymbolIndex.Store

open File SymbolIndex.Effect World

variable {b : Build} {w w' : World} {out : Path} {d d' : Disk} {paths : List Path}

/-- The places of the shards that only the earlier manifest lists. -/
def stalePlaces (b : Build) (d : Disk) (out : Path) : List Location :=
  placesOf (staleIds b (listedIds d out)) d out

/-- What a write did to the disk. -/
structure Rewritten (b : Build) (out : Path) (d d' : Disk) : Prop where
  kept : Kept d d'
  numbers : b.manifest.Writable
  manifest : Holds d' (manifestPath out) (encodeText b.manifest.render)
  shard : ∀ s ∈ b.shards, placeOf d (shardPath out s.id) ∉ stalePlaces b d out →
    Holds d' (shardPath out s.id) (encodeText s.render)
  gone : ∀ id ∈ staleIds b (listedIds d out), ∀ content, Holds d (shardPath out id) content →
    placeOf d (shardPath out id) ≠ placeOf d (manifestPath out) →
    d'.tree.find? (placeOf d (shardPath out id)) = none
  old : ∀ l content, l ∉ indexPlaces b d out → d'.tree.find? l = some (.file content) →
    d.tree.find? l = some (.file content)
  frame : ∀ l content, l ∉ indexPlaces b d out → l ∉ stalePlaces b d out →
    d.tree.find? l = some (.file content) → d'.tree.find? l = some (.file content)

theorem rewritten_of_gives (hb : b.Built) (hr : Rooted w.disk)
    (h : Gives (write b out) w paths w') : Rewritten b out w.disk w'.disk := by
  obtain ⟨w₁, ids, w₂, w₃, w₄, hmake, hids, hshards, hstale, hlast, -⟩ := gives_write_iff.1 h
  have hgrown : Grown w.disk w₁.disk := (always_onDisk (grown_makeDirectories out)).of_gives hmake
  have hsame : w₂.disk = w₁.disk := (disk_previousIds out).of_gives hids
  have hr₁ := hgrown.kept.rooted hr
  -- The steps on the disk, each with the places it may touch.
  obtain ⟨hedited, hholds⟩ := gives_forM_writeText (hsame ▸ hr₁) (nodup_shardPlaces hb _ out) hshards
  rw [hsame] at hedited
  have hr₃ := hedited.kept.rooted hr₁
  obtain ⟨hremoved, hgone⟩ := gives_forM_removeStale hr₃ hstale
  have hr₄ := hremoved.kept.rooted hr₃
  obtain ⟨hwritable, hlast⟩ := gives_writeManifest.1 hlast
  obtain ⟨hedited', hmanifest⟩ := gives_writeText hr₄ hlast
  -- All of them say what they say about the places of the first disk.
  have hkept₁ := hgrown.kept
  have hkept₃ := hkept₁.trans hedited.kept
  have hkept₄ := hkept₃.trans hremoved.kept
  have hreaches : Reaches w₁.disk (manifestPath out) :=
    ((hmanifest.reaches.of_edited hedited'.symm).of_edited hremoved.toEdited.symm).of_edited
      hedited.symm
  have hlisted : ids = listedIds w.disk out :=
    (gives_previousIds hr₁ hreaches hids).trans (listedIds_of_grown hgrown)
  rw [hlisted, placesOf_of_kept hkept₃] at hremoved
  rw [hlisted] at hgone
  rw [show (w₄.disk.resolve (manifestPath out)).names = placeOf w.disk (manifestPath out) from
    placeOf_of_kept hkept₄ _] at hedited'
  have hedited : Edited (shardPlaces b w.disk out) w₁.disk w₃.disk := by
    rwa [← shardPlaces_of_kept hkept₁]
  have hindex : ∀ {l}, l ∉ indexPlaces b w.disk out →
      l ∉ shardPlaces b w.disk out ∧ l ∉ [placeOf w.disk (manifestPath out)] := by
    intro l hl
    rw [indexPlaces_eq hb, List.mem_cons, not_or] at hl
    exact ⟨hl.2, mt List.mem_singleton.1 hl.1⟩
  refine
    { kept := hkept₄.trans hedited'.kept
      numbers := hwritable
      manifest := hmanifest
      shard := fun s hs hplace => ?_
      gone := fun id hid content hc hplace => ?_
      old := fun l content hl hc => ?_
      frame := fun l content hl hstale hc => ?_ }
  · have hne : placeOf w.disk (shardPath out s.id) ∉ [placeOf w.disk (manifestPath out)] := by
      intro heq
      exact manifestPlace_not_mem hb w.disk out
        (List.mem_singleton.1 heq ▸ List.mem_map_of_mem hs)
    rw [← placeOf_of_kept hkept₃] at hplace
    rw [← placeOf_of_kept hkept₄ (shardPath out s.id)] at hne
    exact ((hholds s hs).of_edited hr₃ hremoved.toEdited hplace).of_edited hr₄ hedited' hne
  · have hreaches₃ := (hc.of_grown hgrown).reaches.of_edited hedited
    have hnone := hgone id hid hreaches₃
    rw [placeOf_of_kept hkept₃] at hnone
    rw [hedited'.frame _ (mt List.mem_singleton.1 hplace), hnone]
  · obtain ⟨hshard, hmanifest⟩ := hindex hl
    rw [hedited'.frame l hmanifest] at hc
    rcases hremoved.only l with hl₃ | hl₃
    · rw [hl₃, hedited.frame l hshard] at hc
      exact hgrown.file l content hc
    · rw [hl₃] at hc
      cases hc
  · obtain ⟨hshard, hmanifest⟩ := hindex hl
    rw [hedited'.frame l hmanifest, hremoved.frame l hstale, hedited.frame l hshard]
    exact hgrown.node l _ hc

end SymbolIndex.Store
