import SymbolIndex.Proofs.Store.ReadBack

/-!
# Writing over any directory

A directory may hold anything when an index is written into it, a manifest of other ids among it.
If none of these ids contains a slash, then the new index is read back and no file is touched but
those of the two indexes (`write_touches_its_own_files`). Without that condition the removal of old
shards may take a new one with it, or a file of another directory (`write_removes_its_own_shard`).
-/

namespace SymbolIndex.Store

open File SymbolIndex.Effect World

variable {b : Build} {w w' : World} {out : Path} {d d' : Disk} {paths : List Path} {l : Location}

/-- The names of the files that a write may touch in a directory. -/
def touchedNames (b : Build) (d : Disk) (out : Path) : List String :=
  names b ++ (listedIds d out).map Shard.fileName

/-- No id that is listed in a directory contains a slash. -/
def ListsPlainIds (d : Disk) (out : Path) : Prop := ∀ id ∈ listedIds d out, '/' ∉ id.toList

theorem stalePlaces_eq (h : ListsPlainIds d out) :
    stalePlaces b d out =
      (staleIds b (listedIds d out)).map fun id => filePlace d out (Shard.fileName id) :=
  List.map_congr_left fun id hid =>
    placeOf_child d out (plainName_of_slash (h id (mem_staleIds.1 hid).1))

theorem Rewritten.file_iff (h : Rewritten b out d d') (hids : ListsPlainIds d out)
    (hl : l ∉ (touchedNames b d out).map (filePlace d out)) (content : List UInt8) :
    d'.tree.find? l = some (.file content) ↔ d.tree.find? l = some (.file content) := by
  rw [touchedNames, List.map_append, List.mem_append, not_or] at hl
  refine ⟨h.old l content hl.1, h.frame l content hl.1 fun hstale => hl.2 ?_⟩
  rw [stalePlaces_eq hids] at hstale
  obtain ⟨id, hid, rfl⟩ := List.mem_map.1 hstale
  exact List.mem_map_of_mem (List.mem_map_of_mem (mem_staleIds.1 hid).1)

theorem Rewritten.stored_of_plain (h : Rewritten b out d d') (hb : b.Built)
    (hids : ListsPlainIds d out) : Stored b out d' := by
  refine h.stored fun s hs hstale => ?_
  rw [stalePlaces_eq hids, placeOf_shardPath hb d out hs] at hstale
  obtain ⟨id, hid, heq⟩ := List.mem_map.1 hstale
  obtain rfl : id = s.id := fileName_injective (filePlace_injective d out heq)
  exact (mem_staleIds.1 hid).2 (hb.mem_shardIds.2 ⟨s, hs, rfl⟩)

/-- An index that was written over a directory whose manifest lists no id with a slash, if it has
one, is read back from it. Files stay as they are, but for those of the new index and of ids that
were listed, all in the directory itself. -/
theorem write_touches_its_own_files (hb : b.Built) (hr : Rooted w.disk)
    (hids : ListsPlainIds w.disk out) (h : Gives (write b out) w paths w') :
    (Short b out w.disk →
      ∃ source, Gives (openIndex out) w' source w' ∧ ReadsBack source b) ∧
    (∀ l, ¬ placeOf w.disk out <+: l → ∀ content,
      w'.disk.tree.find? l = some (.file content) ↔ w.disk.tree.find? l = some (.file content)) ∧
    ∀ rest, (∀ name ∈ touchedNames b w.disk out, rest ≠ [name]) → ∀ content,
      w'.disk.tree.find? (placeOf w.disk out ++ rest) = some (.file content) ↔
        w.disk.tree.find? (placeOf w.disk out ++ rest) = some (.file content) := by
  have hrewritten := rewritten_of_gives hb hr h
  refine ⟨fun hshort => ?_, fun l hl => ?_, fun rest hrest => ?_⟩
  · have hstored := hrewritten.stored_of_plain hb hids
    obtain ⟨source, hopen, hserves⟩ := hstored.openIndex hb (hrewritten.kept.rooted hr)
      (hshort.of_kept hrewritten.kept)
    exact ⟨source, hopen, hserves.readsBack hb⟩
  · refine hrewritten.file_iff hids fun hmem => hl ?_
    obtain ⟨name, _, rfl⟩ := List.mem_map.1 hmem
    exact List.prefix_append _ _
  · refine hrewritten.file_iff hids fun hmem => ?_
    obtain ⟨name, hname, heq⟩ := List.mem_map.1 hmem
    exact hrest name hname (List.append_cancel_left heq).symm

/-- A record of the shard `a`. -/
def alphaRecords : List Record := [.ofText "" "alpha" [⟨"alpha.html", "alpha"⟩]]

/-- The document of an alphabetic manifest with two rows. -/
def listing (id other : String) : String :=
  "\x7b\"format\":\"docsearch-index\",\"scheme\":\"alpha\",\"shard_count\":null,\"shards\":[[\"" ++
    id ++ "\",1],[\"" ++ other ++ "\",1]],\"version\":1\x7d\n"

/-- A directory with a manifest that lists two ids, and a file beside it. -/
def listingWorld (id other : String) : World where
  disk :=
    { tree := ⟨[(["idx"], .directory), (["idx", "index.json"], .file (encodeText (listing id other))),
        (["idx", "notes.json"], .file []), (["victim.json"], .file [])]⟩
      cwd := [] }
  log := []

/-- How writing an index of one shard into the directory ends. -/
def overwriting (id other : String) : Except Error (List Path) × World :=
  outcome (write (Build.lenient .alpha alphaRecords) (.ofString "idx")) (listingWorld id other)

abbrev overwritten (id other : String) : World := (overwriting id other).2

theorem rooted_listingWorld (id other : String) : Rooted (listingWorld id other).disk :=
  ⟨standing_nil _, nofun⟩

theorem short_alpha (d : Disk) (hcwd : d.cwd = []) :
    Short (Build.lenient .alpha alphaRecords) (.ofString "idx") d := by
  have hresolve : ∀ path, d.resolve path = (⟨⟨[]⟩, [], []⟩ : Disk).resolve path := by
    intro path
    rw [resolve_eq, resolve_eq, Disk.origin, Disk.origin, hcwd]
  unfold Short
  simp only [hresolve]
  decide +kernel

/-- An id that names the manifest's own file does no harm, and the file of the other is removed. -/
theorem write_over_notes_and_index :
    ListsPlainIds (listingWorld "notes" "index").disk (.ofString "idx") ∧
      (∃ paths, Gives (write (Build.lenient .alpha alphaRecords) (.ofString "idx"))
        (listingWorld "notes" "index") paths (overwritten "notes" "index")) ∧
      (∃ source, Gives (openIndex (.ofString "idx")) (overwritten "notes" "index") source
          (overwritten "notes" "index") ∧
        ReadsBack source (Build.lenient .alpha alphaRecords)) ∧
      (overwritten "notes" "index").disk.tree.find? ["victim.json"] = some (.file []) ∧
      (overwritten "notes" "index").disk.tree.find? ["idx", "notes.json"] = none := by
  have hrun : (∀ id ∈ listedIds (listingWorld "notes" "index").disk (.ofString "idx"),
        '/' ∉ id.toList) ∧
      (overwriting "notes" "index").1.isOk = true ∧
      (overwritten "notes" "index").disk.tree.find? ["idx", "notes.json"] = none := by
    decide +kernel
  obtain ⟨hids, hok, hnotes⟩ := hrun
  obtain ⟨paths, hgives⟩ : ∃ paths, Gives (write (Build.lenient .alpha alphaRecords)
      (.ofString "idx")) (listingWorld "notes" "index") paths (overwritten "notes" "index") :=
    exists_gives_of_isOk hok
  obtain ⟨hread, houtside, _⟩ := write_touches_its_own_files (Build.built_lenient _ _)
    (rooted_listingWorld "notes" "index") hids hgives
  have hbeside : ¬ placeOf (listingWorld "notes" "index").disk (.ofString "idx") <+:
    ["victim.json"] := by decide +kernel
  have hvictim : (listingWorld "notes" "index").disk.tree.find? ["victim.json"] =
    some (.file []) := by decide +kernel
  exact ⟨hids, ⟨paths, hgives⟩, hread (short_alpha _ rfl),
    (houtside ["victim.json"] hbeside []).2 hvictim, hnotes⟩

/-- A manifest that lists `./a` and `../victim`: writing an index of the shard `a` removes the file
of that shard and a file beside the directory. -/
theorem write_removes_its_own_shard :
    Rooted (listingWorld "./a" "../victim").disk ∧
      (∃ paths, Gives (write (Build.lenient .alpha alphaRecords) (.ofString "idx"))
        (listingWorld "./a" "../victim") paths (overwritten "./a" "../victim")) ∧
      (∃ source, Gives (openIndex (.ofString "idx")) (overwritten "./a" "../victim") source
          (overwritten "./a" "../victim") ∧
        ¬ ReadsBack source (Build.lenient .alpha alphaRecords)) ∧
      (listingWorld "./a" "../victim").disk.tree.find? ["victim.json"] = some (.file []) ∧
      (overwritten "./a" "../victim").disk.tree.find? ["victim.json"] = none := by
  have hrun : (overwriting "./a" "../victim").1.isOk = true ∧
      (overwritten "./a" "../victim").disk.tree.find? ["victim.json"] = none ∧
      ((Store.source (overwritten "./a" "../victim").disk
        ((overwritten "./a" "../victim").disk.resolve (.ofString "idx"))
        (Build.lenient .alpha alphaRecords).manifest).fetch "a").isOk = false := by
    decide +kernel
  obtain ⟨hok, hvictim, hmissing⟩ := hrun
  obtain ⟨paths, hgives⟩ : ∃ paths, Gives (write (Build.lenient .alpha alphaRecords)
      (.ofString "idx")) (listingWorld "./a" "../victim") paths (overwritten "./a" "../victim") :=
    exists_gives_of_isOk hok
  have hr := rooted_listingWorld "./a" "../victim"
  have hrewritten := rewritten_of_gives (Build.built_lenient _ _) hr hgives
  have hkept := hrewritten.kept
  have hopen := gives_openIndex (hkept.rooted hr) hrewritten.numbers hrewritten.manifest
    ((short_alpha _ rfl).of_kept hkept).manifest
  obtain ⟨s, hs, hid⟩ : ∃ s ∈ (Build.lenient .alpha alphaRecords).shards, s.id = "a" := by
    decide +kernel
  refine ⟨hr, ⟨paths, hgives⟩, ⟨_, hopen, fun hback => ?_⟩, by decide +kernel, hvictim⟩
  obtain ⟨text, hfetch, -⟩ := hback.2 s hs
  rw [hid] at hfetch
  rw [hfetch] at hmissing
  cases hmissing

end SymbolIndex.Store
