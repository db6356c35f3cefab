import SymbolIndex.Proofs.Build.Reimport
import SymbolIndex.Proofs.CommandLine.Export

/-!
# Building from exported files

The search data files of an index, in any order, give an index with the same files
(`exists_run_exported`), so a directory that is built from them is the one they were exported from
(`export_round_trip`). But a file keeps the carriage returns of its shard, and reading a text turns
them into line feeds: an index with carriage returns comes back with other names, scopes or urls
(`carriage_return_lost`).
-/

namespace SymbolIndex.CommandLine

open File SymbolIndex.Effect World Store

variable {b : Build} {s : Shard} {d d' : Disk} {w : World} {dir js out : Path} {output : Output}

/-! ### Importing -/

/-- No text of an index has a carriage return. -/
def Returnless (b : Build) : Prop :=
  ∀ s ∈ b.shards, ∀ e ∈ s.entries, ∀ t ∈ SearchData.texts e, '\r' ∉ t.toList

theorem Exported.yields (h : Exported b dir js d d') (hb : b.Built) (hlines : Returnless b)
    (hs : s ∈ b.shards) (onlySearchData : Bool) :
    Yields onlySearchData d' (exportPath js s) (s.entries.map SearchData.recordOf) := by
  have hunify := Text.Lines.unify_of_not_mem (SearchData.return_not_mem_render (hlines s hs))
  exact yields_of_searchData (suffix_exportPath hb hs js) (h.holds s hs)
    (decodeText_encodeText hunify)
    (SearchData.read_render fun e he => ((hb.wellFormed hs).2.2 e he).2)

section

variable {c : Build}

theorem names_congr (hshards : c.shards = b.shards) : names c = names b := by
  rw [names_eq, names_eq, hshards]

theorem fits_congr (h : Fits b out) (hshards : c.shards = b.shards)
    (hmanifest : c.manifest = b.manifest) : Fits c out :=
  ⟨hmanifest ▸ h.numbers, names_congr hshards ▸ h.path, names_congr hshards ▸ h.name⟩

/-- What a directory holds of an index are its shards and its manifest. -/
theorem holdsExactly_congr (h : HoldsExactly c out d) (hshards : c.shards = b.shards)
    (hmanifest : c.manifest = b.manifest) : HoldsExactly b out d :=
  ⟨⟨hmanifest ▸ h.stored.numbers, hmanifest ▸ h.stored.manifest, hshards ▸ h.stored.shard⟩,
    names_congr hshards ▸ h.only⟩

end

section

variable {p : Partition} {records : List Record} {shards : List Shard} {s : Settings}
  {o : BuildOptions}

/-- The exported files, in any order, give an index with the same shards and manifest. -/
theorem exists_run_exported (h : Exported (Build.lenient p records) dir js d d')
    (hlines : Returnless (Build.lenient p records))
    (hp : shards.Perm (Build.lenient p records).shards) (isStrict onlySearchData : Bool) :
    ∃ parts c, List.Forall₂ (Yields onlySearchData d') (shards.map (exportPath js)) parts ∧
      Build.run isStrict p parts.flatten = .ok c ∧
      c.shards = (Build.lenient p records).shards ∧
      c.manifest = (Build.lenient p records).manifest := by
  obtain ⟨c, hc, hshards, hmanifest⟩ :=
    Build.exists_run_of_perm isStrict (hp.flatMap_right (·.entries))
  refine ⟨shards.map fun s => s.entries.map SearchData.recordOf, c, ?_, ?_, hshards, hmanifest⟩
  · rw [List.forall₂_map_left_iff, List.forall₂_map_right_iff, List.forall₂_same]
    exact fun s hs => h.yields (Build.built_lenient p records) hlines (hp.mem_iff.1 hs) _
  · rw [← List.flatMap_def, ← List.map_flatMap]
    exact hc

/-- A build of the exported files succeeds if its directory takes the index, and makes the
directory hold that index. -/
theorem rebuild_of_exported (h : Exported (Build.lenient p records) dir js d w.disk)
    (hr : Rooted w.disk) (hlines : Returnless (Build.lenient p records))
    (hp : shards.Perm (Build.lenient p records).shards) (hq : choosePartition s o = .ok p)
    (hout : Settled w.disk out) :
    (Makes w.disk out → Fits (Build.lenient p records) out → ∃ output w',
      Gives (runBuild s (shards.map (exportPath js)) (some out) o) w output w') ∧
    ∀ output w', Gives (runBuild s (shards.map (exportPath js)) (some out) o) w output w' →
      Rooted w'.disk ∧ HoldsExactly (Build.lenient p records) out w'.disk := by
  obtain ⟨parts, c, hyields, hrun, hshards, hmanifest⟩ :=
    exists_run_exported h hlines hp (s.strict && !o.isLenient) o.onlySearchData
  refine ⟨fun hmakes hfits => ?_, fun output w' hgives => ?_⟩
  · exact exists_gives_runBuild_of_settled hyields hq hrun hr hout hmakes
      (fits_congr hfits hshards hmanifest)
  · obtain ⟨hkept, hexact⟩ := holdsExactly_of_gives_runBuild hyields hq hrun hr hout hgives
    exact ⟨hkept.rooted hr, holdsExactly_congr hexact hshards hmanifest⟩

end

/-- Two directories have the same files, at the same places below them. -/
def SameFiles (d : Disk) (dir : Path) (d' : Disk) (dir' : Path) : Prop :=
  ∀ rest content, d.tree.find? (placeOf d dir ++ rest) = some (.file content) ↔
    d'.tree.find? (placeOf d' dir' ++ rest) = some (.file content)

theorem sameFiles_of_holdsExactly (h : HoldsExactly b dir d) (h' : HoldsExactly b out d')
    (hb : b.Built) (hr : Rooted d) (hr' : Rooted d') : SameFiles d dir d' out := by
  intro rest content
  rw [h.file_iff hb hr, h'.file_iff hb hr']

/-- Exporting the index of a build into a directory without files leaves just the search data files
of its shards there. If there are any, since a build has at least one input, and no text of the
index has a carriage return, then building from these files, in any order and with the same
partition, makes a directory hold exactly that index, so it has the same files as the first one if
that had no others. The commands succeed if the directories can be made and take their files. -/
theorem export_round_trip {configPath : Path} {s : Settings} {inputs : List Path}
    {o : BuildOptions} {w₁ : World} (hr : Rooted w.disk) (hids : ListsPlainIds w.disk dir)
    (hbuild : Gives ((Command.build inputs (some dir) o).run configPath s) w output w₁)
    (hfresh : Fresh w₁.disk js) :
    ∃ records v p b, Gives (readInputs o.onlySearchData [] inputs) w records v ∧
      choosePartition s o = .ok p ∧ Build.run (s.strict && !o.isLenient) p records = .ok b ∧
      Stored b dir w₁.disk ∧
      (Short b dir w₁.disk → Makes w₁.disk js → FitsExport b js → ∃ output w₂,
        Gives ((Command.exportSearchData dir (some js)).run configPath s) w₁ output w₂) ∧
      ∀ output w₂, Gives ((Command.exportSearchData dir (some js)).run configPath s) w₁ output w₂ →
        Exported b dir js w₁.disk w₂.disk ∧
        (Returnless b → b.shards ≠ [] → ∀ shards : List Shard, shards.Perm b.shards →
          ∀ (configPath' : Path) (s' : Settings) (o' : BuildOptions) (out : Path),
            choosePartition s' o' = .ok p → Settled w₂.disk out →
            (Makes w₂.disk out → Fits b out → ∃ output w₃, Gives ((Command.build
              (shards.map (exportPath js)) (some out) o').run configPath' s') w₂ output w₃) ∧
            ∀ output w₃, Gives ((Command.build (shards.map (exportPath js)) (some out) o').run
              configPath' s') w₂ output w₃ → HoldsExactly b out w₃.disk ∧
                (Settled w.disk dir → SameFiles w₃.disk out w₁.disk dir)) := by
  obtain ⟨records, v, p, b, v', paths, hread, hchosen, hrun, hv, hwrite⟩ :=
    exists_of_gives_runBuild hbuild
  have hb : b.Built := ⟨_, _, _, hrun⟩
  obtain rfl := Build.eq_lenient_of_run hrun
  rw [← hv] at hr hids
  have hrewritten := rewritten_of_gives hb hr hwrite
  have hstored := hrewritten.stored_of_plain hb hids
  have hr₁ := hrewritten.kept.rooted hr
  refine ⟨records, v, p, _, hread, hchosen, hrun, hstored, exists_gives_runExport hb hr₁ hstored,
    fun _ w₂ hexport => ?_⟩
  have hexported := exported_of_gives hb hr₁ hstored hfresh hexport
  refine ⟨hexported, fun hlines _ shards hp _ s' o' out hq hout => ?_⟩
  obtain ⟨hexists, hholds⟩ := rebuild_of_exported hexported (hexported.kept.rooted hr₁) hlines hp
    hq hout
  refine ⟨hexists, fun output w₃ hgives => ?_⟩
  obtain ⟨hr₃, hexact⟩ := hholds output w₃ hgives
  refine ⟨hexact, fun hdir => ?_⟩
  rw [← hv] at hdir
  exact sameFiles_of_holdsExactly hexact (hdir.holdsExactly hb hr hwrite) hb hr₃ hr₁

/-! ### An import of one record -/

def namedRecord (name : String) : Record := .ofText "" name [⟨"a.html", ""⟩]

abbrev namedBuild (name : String) : Build := .lenient .alpha [namedRecord name]

def recordJson (name : String) : Json :=
  .obj [("display_name", .str name), ("occurrences",
    .arr [.obj [("anchor_url", .str "a.html"), ("scope_label", .str "")]])]

/-- The text of a record file. -/
def recordText (name : String) : String :=
  String.ofList (Json.compact (.arr [recordJson name]) ++ ['\n'])

/-- A world with a record file and three empty directories. -/
def importWorld (name : String) : World where
  disk :=
    { tree := ⟨[(["in.json"], .file (encodeText (recordText name))), (["idx"], .directory),
        (["js"], .directory), (["again"], .directory)]⟩
      cwd := [] }
  log := []

def importOptions : BuildOptions := ⟨false, none, .absent, false⟩

/-- A command that succeeds under the default settings. -/
abbrev Runs (c : Command) (w : World) (output : Output) (w' : World) : Prop :=
  Gives (c.run (.ofString "config.json") .default) w output w'

section

variable {name : String}

theorem sorted_recordJson (name : String) :
    Json.sorted (.arr [recordJson name]) = .arr [recordJson name] := by
  have hsort : ∀ (a b : String) (v v' : Json), a ≤ b →
      Json.sortByName [(a, v), (b, v')] = [(a, v), (b, v')] :=
    fun a b v v' h => List.mergeSort_of_pairwise (by simpa using h)
  have hrecord : "display_name" ≤ "occurrences" := by decide
  have hplace : "anchor_url" ≤ "scope_label" := by decide
  simp [recordJson, Json.sorted, Json.sortedItems_eq, Json.sortedMembers_eq,
    hsort _ _ _ _ hrecord, hsort _ _ _ _ hplace]
  exact rfl

theorem writable_recordJson (name : String) : Json.Writable (.arr [recordJson name]) := by
  have hplace : Json.Writable (.obj [("anchor_url", .str "a.html"), ("scope_label", .str "")]) :=
    .obj (by simp [Json.Writable.str])
  have hrecord : Json.Writable (recordJson name) :=
    .obj (by simp [Json.Writable.str, Json.Writable.arr, hplace])
  exact .arr (by simp [hrecord])

theorem yields_importWorld (name : String) :
    Yields false (importWorld name).disk (.ofString "in.json") [namedRecord name] := by
  have hwritable := writable_recordJson name
  have htext : (recordText name).toList = Json.compact (.arr [recordJson name]) ++ ['\n'] :=
    String.toList_ofList
  have hread : Json.read (recordText name).toList = .ok (.arr [recordJson name]) := by
    rw [htext, Json.read_compact hwritable, sorted_recordJson]
  have hunify : Text.Lines.unify (recordText name).toList = (recordText name).toList := by
    rw [htext]
    exact hwritable.unify_compact
  have hholds : Holds (importWorld name).disk (.ofString "in.json")
    (encodeText (recordText name)) := ⟨by decide +kernel, ["in.json"], rfl, rfl⟩
  exact yields_of_records (by decide +kernel) hholds (decodeText_encodeText hunify) hread

theorem inputs_importWorld (name : String) :
    List.Forall₂ (Yields importOptions.onlySearchData (importWorld name).disk)
      [.ofString "in.json"] [[namedRecord name]] :=
  .cons (yields_importWorld name) .nil

theorem rooted_importWorld (name : String) : Rooted (importWorld name).disk :=
  ⟨standing_nil _, nofun⟩

theorem importWorld_folder (name : String) {folder : String}
    (h : folder ∈ ["idx", "js", "again"]) :
    (Path.ofString folder).hasNull = false ∧
      (importWorld name).disk.locate (.ofString folder) = .ok [folder] ∧
      (importWorld name).disk.tree.find? [folder] = some .directory := by
  simp only [List.mem_cons, List.not_mem_nil, or_false] at h
  rcases h with rfl | rfl | rfl <;> exact ⟨by decide +kernel, rfl, rfl⟩

theorem placeOf_importWorld (name : String) {folder : String}
    (h : folder ∈ ["idx", "js", "again"]) :
    placeOf (importWorld name).disk (.ofString folder) = [folder] := by
  rw [placeOf, ((rooted_importWorld name).locate (importWorld_folder name h).2.1).2]

theorem fresh_importWorld (name : String) {folder : String}
    (h : folder ∈ ["idx", "js", "again"]) :
    Fresh (importWorld name).disk (.ofString folder) := by
  intro rest content hc
  rw [placeOf_importWorld name h] at hc
  cases rest with
  | nil =>
    rw [List.append_nil, (importWorld_folder name h).2.2] at hc
    cases hc
  | cons inner rest => simp [importWorld, Tree.find?] at hc

theorem clear_importWorld (name : String) {folder : String}
    (h : folder ∈ ["idx", "js", "again"]) :
    Clear (importWorld name).disk (.ofString folder) := by
  obtain ⟨hnull, hlocate, hdir⟩ := importWorld_folder name h
  refine ⟨hnull, ⟨[folder], hlocate, hdir⟩, fun inner hinner => ?_, fun _ => rfl⟩
  rw [filePlace, placeOf_importWorld name h] at hinner
  simp [importWorld, Tree.find?] at hinner

/-- The record of a name makes an index of one shard. -/
structure Sole (name : String) (s : Shard) : Prop where
  valid : (namedRecord name).valid?.isSome
  shards : (namedBuild name).shards = [s]
  id : s.id = "a"
  printable : (namedBuild name).manifest.isPrintable = true

variable {s : Shard}

theorem Sole.mem (h : Sole name s) : s ∈ (namedBuild name).shards := by
  rw [h.shards]
  exact List.mem_cons_self

theorem Sole.fits (h : Sole name s) {folder : String} (hf : folder ∈ ["idx", "js", "again"]) :
    Fits (namedBuild name) (.ofString folder) := by
  have hnames : names (namedBuild name) = ["index.json", "a.json"] := by
    rw [names_eq, h.shards, List.map_singleton, h.id]
    decide +kernel
  have hsmall : ∀ folder ∈ ["idx", "js", "again"], ∀ inner ∈ ["index.json", "a.json"],
      ((Path.ofString folder).child inner).toString.utf8ByteSize ≤ Disk.maxPathLength := by
    decide +kernel
  refine ⟨Manifest.isPrintable_iff.1 h.printable, ?_, ?_⟩
  · rw [hnames]
    exact hsmall folder hf
  · rw [hnames]
    decide +kernel

theorem Sole.short (h : Sole name s) :
    Short (namedBuild name) (.ofString "idx") (importWorld name).disk := by
  have hresolve : ∀ path, (importWorld name).disk.resolve path =
      (⟨⟨[]⟩, [], []⟩ : Disk).resolve path := fun _ => rfl
  rw [Short, h.shards, List.map_singleton, h.id]
  simp only [hresolve]
  decide +kernel

theorem Sole.fitsExport (h : Sole name s) : FitsExport (namedBuild name) (.ofString "js") := by
  constructor
  · rw [h.shards, List.forall_mem_singleton, exportPath, h.id]
    decide +kernel
  · rw [h.shards, List.forall_mem_singleton, h.id]
    decide +kernel

theorem Sole.exportPaths (h : Sole name s) :
    (namedBuild name).shards.map (exportPath (.ofString "js")) =
      [.ofString "js/searchdata_a.js"] := by
  rw [h.shards, List.map_singleton, exportPath, h.id]
  decide +kernel

theorem Sole.exported (h : Sole name s) {d d' : Disk}
    (hx : Exported (namedBuild name) dir (.ofString "js") d d') :
    (Path.ofString "js/searchdata_a.js").suffix = ".js" ∧
      Holds d' (.ofString "js/searchdata_a.js") (encodeText (SearchData.render s)) := by
  have hpath : exportPath (.ofString "js") s = .ofString "js/searchdata_a.js" := by
    rw [exportPath, h.id]
    decide +kernel
  rw [← hpath]
  exact ⟨suffix_exportPath (Build.built_lenient _ _) h.mem _, hx.holds s h.mem⟩

theorem Sole.wellFormed (h : Sole name s) : s.WellFormed :=
  (Build.built_lenient .alpha [namedRecord name]).wellFormed h.mem

/-- The file of the shard. -/
theorem Sole.find?_shard (h : Sole name s) {folder : String} (hr : Rooted d)
    (hplace : placeOf d (.ofString folder) = [folder])
    (hexact : HoldsExactly (namedBuild name) (.ofString folder) d) :
    d.tree.find? [folder, "a.json"] = some (.file (encodeText s.render)) := by
  have hfile : (Shard.fileName s.id, s.render) ∈ files (namedBuild name) := shardFile_mem h.mem
  have hname : Shard.fileName s.id = "a.json" := by
    rw [h.id]
    decide
  have hholds := (hexact.file_iff (Build.built_lenient _ _) hr ["a.json"] _).2
    ⟨_, hfile, by rw [hname], rfl⟩
  rwa [hplace] at hholds

theorem Sole.run (h : Sole name s) :
    Build.run true .alpha [namedRecord name] = .ok (namedBuild name) :=
  Build.run_eq_lenient fun _ => by simpa using h.valid

theorem choosePartition_importOptions : choosePartition .default importOptions = .ok .alpha := rfl

theorem exists_runs_build (h : Sole name s) : ∃ output w₁,
    Runs (.build [.ofString "in.json"] (some (.ofString "idx")) importOptions) (importWorld name)
      output w₁ ∧ ∃ v paths, v.disk = (importWorld name).disk ∧
        Gives (write (namedBuild name) (.ofString "idx")) v paths w₁ := by
  have hidx : "idx" ∈ ["idx", "js", "again"] := by decide
  have hinputs := inputs_importWorld name
  have hrun : Build.run (Settings.default.strict && !importOptions.isLenient) .alpha
    [[namedRecord name]].flatten = .ok (namedBuild name) := h.run
  obtain ⟨output, w₁, hbuild⟩ := exists_gives_runBuild_of_settled hinputs
    choosePartition_importOptions hrun (rooted_importWorld name)
    (.inl (fresh_importWorld name hidx)) (clear_importWorld name hidx).makes (h.fits hidx)
  exact ⟨output, w₁, hbuild, exists_gives_write_of_gives_runBuild hinputs
    choosePartition_importOptions hrun hbuild⟩

theorem ne_filePlace_importWorld (name : String) {folder : String} (hf : folder ∈ ["js", "again"])
    (rest : Location) (inner : String) :
    placeOf (importWorld name).disk (.ofString folder) ++ rest ≠
      filePlace (importWorld name).disk (.ofString "idx") inner := by
  have hidx : "idx" ∈ ["idx", "js", "again"] := by decide
  rw [filePlace, placeOf_importWorld name hidx,
    placeOf_importWorld name (List.mem_cons_of_mem _ hf)]
  intro heq
  have hsame : folder = "idx" := (List.cons.inj heq).1
  rw [hsame] at hf
  exact absurd hf (by decide)

/-- What the first build leaves. -/
theorem importable_of_gives_write {v w₁ : World} {paths : List Path}
    (hv : v.disk = (importWorld name).disk)
    (hwrite : Gives (write (namedBuild name) (.ofString "idx")) v paths w₁) :
    Kept (importWorld name).disk w₁.disk ∧
      HoldsExactly (namedBuild name) (.ofString "idx") w₁.disk ∧
      ∀ folder ∈ ["js", "again"],
        Fresh w₁.disk (.ofString folder) ∧ Clear w₁.disk (.ofString folder) := by
  have hb : (namedBuild name).Built := Build.built_lenient _ _
  have hidx : "idx" ∈ ["idx", "js", "again"] := by decide
  have hr : Rooted v.disk := hv ▸ rooted_importWorld name
  have hfresh : Fresh v.disk (.ofString "idx") := hv ▸ fresh_importWorld name hidx
  have hrewritten := rewritten_of_gives hb hr hwrite
  obtain ⟨places, hedited⟩ :=
    exists_edited_of_gives_write hb hr (hv ▸ clear_importWorld name hidx) hwrite
  rw [hv] at hrewritten hedited
  refine ⟨hrewritten.kept, Settled.holdsExactly (.inl hfresh) hb hr hwrite, fun folder hf => ?_⟩
  have hmem : folder ∈ ["idx", "js", "again"] := List.mem_cons_of_mem _ hf
  refine ⟨fun rest content hfile => ?_, (clear_importWorld name hmem).of_edited hedited⟩
  rw [placeOf_of_kept hrewritten.kept] at hfile
  refine fresh_importWorld name hmem rest content
    (hrewritten.old _ content (fun hindex => ?_) hfile)
  obtain ⟨inner, _, heq⟩ := List.mem_map.1 hindex
  exact ne_filePlace_importWorld name hf rest inner heq.symm

/-- What the export leaves. -/
theorem importable_of_gives_runExport {w₁ w₂ : World} {output : Output}
    (hkept : Kept (importWorld name).disk w₁.disk)
    (hstored : Stored (namedBuild name) (.ofString "idx") w₁.disk)
    (hfolders : ∀ folder ∈ ["js", "again"],
      Fresh w₁.disk (.ofString folder) ∧ Clear w₁.disk (.ofString folder))
    (hexport : Gives (runExport (.ofString "idx") (some (.ofString "js"))) w₁ output w₂) :
    Fresh w₂.disk (.ofString "again") ∧ Clear w₂.disk (.ofString "again") := by
  have hb : (namedBuild name).Built := Build.built_lenient _ _
  obtain ⟨hfresh, hclear⟩ := hfolders "again" (by decide)
  have hedited := edited_of_gives_runExport hb (hkept.rooted (rooted_importWorld name)) hstored
    (hfolders "js" (by decide)).2 hexport
  refine ⟨fun rest content hfile => ?_, hclear.of_edited hedited⟩
  rw [placeOf_of_kept hedited.kept, hedited.frame] at hfile
  · exact hfresh rest content hfile
  · intro hmem
    obtain ⟨s, hs, heq⟩ := List.mem_map.1 hmem
    rw [placeOf_exportPath hb hs, filePlace, placeOf_of_kept hkept, placeOf_of_kept hkept,
      placeOf_importWorld name (by decide), placeOf_importWorld name (by decide)] at heq
    exact absurd (List.cons.inj heq).1 (by decide)

theorem sole_alpha : Sole "alpha" ⟨"a", [⟨"alpha", "alpha", [⟨"a.html", ""⟩]⟩]⟩ :=
  ⟨by decide +kernel, by decide +kernel, rfl, by decide +kernel⟩

theorem export_round_trip_alpha : ∃ o₁ w₁ o₂ w₂ o₃ w₃,
    Runs (.build [.ofString "in.json"] (some (.ofString "idx")) importOptions)
      (importWorld "alpha") o₁ w₁ ∧
    Runs (.exportSearchData (.ofString "idx") (some (.ofString "js"))) w₁ o₂ w₂ ∧
    Runs (.build [.ofString "js/searchdata_a.js"] (some (.ofString "again")) importOptions)
      w₂ o₃ w₃ ∧
    HoldsExactly (namedBuild "alpha") (.ofString "again") w₃.disk ∧
    SameFiles w₃.disk (.ofString "again") w₁.disk (.ofString "idx") := by
  have h := sole_alpha
  have hr := rooted_importWorld "alpha"
  have hsettled : Settled (importWorld "alpha").disk (.ofString "idx") :=
    .inl (fresh_importWorld "alpha" (by decide))
  obtain ⟨o₁, w₁, hbuild, v, paths, hv, hwrite⟩ := exists_runs_build h
  obtain ⟨hkept, hexact, hfolders⟩ := importable_of_gives_write hv hwrite
  obtain ⟨hfreshJs, hclearJs⟩ := hfolders "js" (by decide)
  obtain ⟨records, v', p, b, hread, hp, hrun, -, hexport, himport⟩ :=
    export_round_trip hr (hsettled.listsPlainIds hr) hbuild hfreshJs
  -- The index is that of the one record.
  obtain ⟨_, hread', _⟩ := exists_gives_readInputs (inputs_importWorld "alpha") [] rfl
  obtain ⟨rfl, rfl⟩ := hread'.unique hread
  obtain rfl := Except.ok.inj (choosePartition_importOptions.symm.trans hp)
  obtain rfl := Except.ok.inj (h.run.symm.trans hrun)
  have hlines : Returnless (namedBuild "alpha") := by
    unfold Returnless
    rw [h.shards]
    decide
  have hne : (namedBuild "alpha").shards ≠ [] := by
    rw [h.shards]
    exact List.cons_ne_nil _ _
  obtain ⟨o₂, w₂, hexported⟩ := hexport (h.short.of_kept hkept) hclearJs.makes h.fitsExport
  obtain ⟨hfresh, hclear⟩ :=
    importable_of_gives_runExport hkept hexact.stored hfolders hexported
  obtain ⟨hrebuild, hsame⟩ := (himport o₂ w₂ hexported).2 hlines hne _ (.refl _)
    (.ofString "config.json") .default importOptions (.ofString "again") hp (.inl hfresh)
  rw [h.exportPaths] at hrebuild hsame
  obtain ⟨o₃, w₃, hagain⟩ := hrebuild hclear.makes (h.fits (by decide))
  obtain ⟨hexact₃, hsame⟩ := hsame o₃ w₃ hagain
  exact ⟨o₁, w₁, o₂, w₂, o₃, w₃, hbuild, hexported, hagain, hexact₃, hsame hsettled⟩

/-! ### A carriage return -/

def returnShard : Shard := ⟨"a", [⟨"ab", "a\rb", [⟨"a.html", ""⟩]⟩]⟩

def feedShard : Shard := ⟨"a", [⟨"ab", "a\nb", [⟨"a.html", ""⟩]⟩]⟩

theorem sole_return : Sole "a\rb" returnShard :=
  ⟨by decide +kernel, by decide +kernel, rfl, by decide +kernel⟩

theorem sole_feed : Sole "a\nb" feedShard :=
  ⟨by decide +kernel, by decide +kernel, rfl, by decide +kernel⟩

/-- The search data file of the one shard is read as that of the other. -/
theorem decodeText_render_return :
    decodeText (encodeText (SearchData.render returnShard)) =
      .ok (SearchData.render feedShard) := by
  have hunify : Text.Lines.unify (SearchData.render returnShard).toList =
      (SearchData.render feedShard).toList := by decide +kernel
  rw [decodeText_encodeText_eq, hunify, String.ofList_toList]

/-- Documents of different shards differ, since they can be read back. -/
theorem render_return_ne : returnShard.render ≠ feedShard.render := by
  intro hrender
  have hread := Shard.read_render sole_return.wellFormed
  rw [hrender, Shard.read_render sole_feed.wellFormed] at hread
  exact absurd (Except.ok.inj hread) (by decide)

/-- A build of the exported file makes the index of the name with a line feed. -/
theorem exists_run_return : ∃ c : Build,
    Build.run true .alpha (feedShard.entries.map SearchData.recordOf) = .ok c ∧
      c.shards = (namedBuild "a\nb").shards ∧ c.manifest = (namedBuild "a\nb").manifest := by
  have hentries : (namedBuild "a\nb").entries = feedShard.entries := by
    rw [Build.entries, sole_feed.shards, List.flatMap_singleton]
  exact Build.exists_run_of_perm true (hentries ▸ .refl _)

/-- A name with a carriage return comes back with a line feed. -/
theorem carriage_return_lost : ∃ o₁ w₁ o₂ w₂ o₃ w₃,
    Runs (.build [.ofString "in.json"] (some (.ofString "idx")) importOptions)
      (importWorld "a\rb") o₁ w₁ ∧
    Runs (.exportSearchData (.ofString "idx") (some (.ofString "js"))) w₁ o₂ w₂ ∧
    Runs (.build [.ofString "js/searchdata_a.js"] (some (.ofString "again")) importOptions)
      w₂ o₃ w₃ ∧
    Fresh w₁.disk (.ofString "js") ∧ Fresh w₂.disk (.ofString "again") ∧
    ¬ SameFiles w₃.disk (.ofString "again") w₁.disk (.ofString "idx") := by
  have h := sole_return
  have hb : (namedBuild "a\rb").Built := Build.built_lenient _ _
  obtain ⟨o₁, w₁, hbuild, v, paths, hv, hwrite⟩ := exists_runs_build h
  obtain ⟨hkept, hexact, hfolders⟩ := importable_of_gives_write hv hwrite
  obtain ⟨hfreshJs, hclearJs⟩ := hfolders "js" (by decide)
  have hr₁ := hkept.rooted (rooted_importWorld "a\rb")
  obtain ⟨o₂, w₂, hexport⟩ := exists_gives_runExport hb hr₁ hexact.stored
    (h.short.of_kept hkept) hclearJs.makes h.fitsExport
  obtain ⟨hfresh, hclear⟩ :=
    importable_of_gives_runExport hkept hexact.stored hfolders hexport
  have hexported := exported_of_gives hb hr₁ hexact.stored hfreshJs hexport
  have hr₂ := hexported.kept.rooted hr₁
  obtain ⟨c, hrun, hshards, hmanifest⟩ := exists_run_return
  have hinputs : List.Forall₂ (Yields importOptions.onlySearchData w₂.disk)
      [.ofString "js/searchdata_a.js"] [feedShard.entries.map SearchData.recordOf] := by
    obtain ⟨hsuffix, hholds⟩ := h.exported hexported
    exact .cons (yields_of_searchData hsuffix hholds decodeText_render_return
      (SearchData.read_render (by decide))) .nil
  have hrun : Build.run (Settings.default.strict && !importOptions.isLenient) .alpha
    [feedShard.entries.map SearchData.recordOf].flatten = .ok c := hrun
  obtain ⟨o₃, w₃, hagain⟩ := exists_gives_runBuild_of_settled hinputs
    choosePartition_importOptions hrun hr₂ (.inl hfresh) hclear.makes
    (fits_congr (sole_feed.fits (by decide)) hshards hmanifest)
  refine ⟨o₁, w₁, o₂, w₂, o₃, w₃, hbuild, hexport, hagain, hfreshJs, hfresh, fun hsame => ?_⟩
  -- The files of the shard in the two directories.
  obtain ⟨hkept₃, hexact₃⟩ := holdsExactly_of_gives_runBuild hinputs
    choosePartition_importOptions hrun hr₂ (.inl hfresh) hagain
  have hkept₃ := (hkept.trans hexported.kept).trans hkept₃
  have hplace : ∀ {d folder}, Kept (importWorld "a\rb").disk d → folder ∈ ["idx", "js", "again"] →
      placeOf d (.ofString folder) = [folder] := by
    intro d folder hkept hfolder
    rw [placeOf_of_kept hkept, placeOf_importWorld _ hfolder]
  have hidx : placeOf w₁.disk (.ofString "idx") = ["idx"] := hplace hkept (by decide)
  have hagain : placeOf w₃.disk (.ofString "again") = ["again"] := hplace hkept₃ (by decide)
  have hold := h.find?_shard hr₁ hidx hexact
  have hnew := sole_feed.find?_shard (hkept₃.rooted (rooted_importWorld _)) hagain
    (holdsExactly_congr hexact₃ hshards hmanifest)
  have hboth := hsame ["a.json"] (encodeText returnShard.render)
  rw [hidx, hagain] at hboth
  have heq := Node.file.inj (Option.some.inj ((hboth.2 hold).symm.trans hnew))
  exact render_return_ne (encodeText_injective heq)

end

end SymbolIndex.CommandLine
