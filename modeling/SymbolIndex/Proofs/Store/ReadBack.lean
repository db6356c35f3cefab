import SymbolIndex.Proofs.Shard.Codec
import SymbolIndex.Proofs.Store.Rewrite

/-!
# An index is read back from its directory

A directory whose manifest holds its document can be opened (`gives_openIndex`), and what is
fetched for a shard whose file holds its document is that document (`fetch_of_holds`). So a build
that was written into a directory without an index is served from there (`Written.openIndex`).
-/

namespace SymbolIndex.Store

open File SymbolIndex.Effect World

variable {p : Partition} {records : List Record} {b : Build} {w w' : World} {out : Path} {d d' : Disk}
  {m : Manifest} {s : Shard} {source : Source}

/-! ### Serving -/

/-- A source offers the manifest of a build and the documents of its shards. -/
structure Serves (source : Source) (b : Build) : Prop where
  manifest : source.manifest = b.manifest
  fetch : ∀ s ∈ b.shards, source.fetch s.id = .ok s.render

theorem serves_ofBuild {b : Build} (hn : (b.shards.map (·.id)).Nodup) : Serves (ofBuild b) b where
  manifest := rfl
  fetch s hs := by
    have hids : ((b.shards.map fun s => (s.id, s.render)).map (·.1)).Nodup := by
      rw [List.map_map]
      exact hn
    have hmem : (s.id, s.render) ∈ b.shards.map fun s => (s.id, s.render) :=
      List.mem_map_of_mem hs
    rw [ofBuild, Source.memory]
    simp only [find?_of_nodup hids hmem]

/-- What is fetched for a shard is read as the shard. -/
def LoadsAs (source : Source) (s : Shard) : Prop :=
  ∃ text, source.fetch s.id = .ok text ∧ Shard.read text = .ok s

/-- A build is read back from a source: its manifest, and each shard. -/
def ReadsBack (source : Source) (b : Build) : Prop :=
  source.manifest = b.manifest ∧ ∀ s ∈ b.shards, LoadsAs source s

theorem Serves.readsBack (h : Serves source b) (hb : b.Built) : ReadsBack source b :=
  ⟨h.manifest, fun s hs => ⟨s.render, h.fetch s hs, Shard.read_render (hb.wellFormed hs)⟩⟩

/-! ### Opening -/

/-- No path from the top to a file of the index is too long for the system. -/
def Short (b : Build) (out : Path) (d : Disk) : Prop :=
  ∀ path ∈ manifestPath out :: b.shards.map fun s => shardPath out s.id,
    (d.resolve path).toString.utf8ByteSize ≤ Disk.maxPathLength

theorem Short.manifest (h : Short b out d) :
    (d.resolve (manifestPath out)).toString.utf8ByteSize ≤ Disk.maxPathLength :=
  h _ List.mem_cons_self

theorem Short.shard (h : Short b out d) (hs : s ∈ b.shards) :
    (d.resolve (shardPath out s.id)).toString.utf8ByteSize ≤ Disk.maxPathLength :=
  h _ (List.mem_cons_of_mem _ (List.mem_map_of_mem hs))

theorem Short.of_kept (h : Short b out d) (hk : Kept d d') : Short b out d' := by
  intro path hpath
  rw [hk.resolve]
  exact h path hpath

theorem gives_locate {r : Path} :
    Gives (Store.locate out) w r w' ↔ out.hasNull = false ∧ w.disk.resolve out = r ∧ w = w' := by
  unfold Store.locate
  simp only
  rw [gives_unless]
  simp only [gives_bind, gives_get, gives_pure]
  constructor
  · rintro ⟨hn, _, _, ⟨rfl, rfl⟩, rfl, rfl⟩
    exact ⟨hn, rfl, rfl⟩
  · rintro ⟨hn, rfl, rfl⟩
    exact ⟨hn, w, w, ⟨rfl, rfl⟩, rfl, rfl⟩

/-- The manifest is found from the resolved directory too. -/
theorem gives_readManifest (hr : Rooted w.disk) (hm : m.Writable)
    (h : Holds w.disk (manifestPath out) (encodeText m.render))
    (hlen : (w.disk.resolve (manifestPath out)).toString.utf8ByteSize ≤ Disk.maxPathLength) :
    Gives (readManifest (w.disk.resolve out)) w m w := by
  have hroot : manifestPath (w.disk.resolve out) = w.disk.resolve (manifestPath out) :=
    Path.child_resolve w.disk out plainName_manifest
  have hholds : Holds w.disk (manifestPath (w.disk.resolve out)) (encodeText m.render) := by
    rw [hroot]
    exact h.resolve hr hlen
  unfold readManifest
  rw [gives_bind]
  exact ⟨_, w, hholds.gives_readText (Manifest.unify_render hm),
    gives_ofExcept.2 ⟨Manifest.read_render hm, rfl⟩⟩

/-- A directory that holds a manifest can be opened. -/
theorem gives_openIndex (hr : Rooted w.disk) (hm : m.Writable)
    (h : Holds w.disk (manifestPath out) (encodeText m.render))
    (hlen : (w.disk.resolve (manifestPath out)).toString.utf8ByteSize ≤ Disk.maxPathLength) :
    Gives (openIndex out) w (Store.source w.disk (w.disk.resolve out) m) w := by
  have hnull : out.hasNull = false := ((hasNull_child plainName_manifest).1 h.1).1
  have hread := gives_readManifest hr hm h hlen
  unfold openIndex
  simp only [gives_bind, gives_get, gives_pure]
  exact ⟨_, w, gives_locate.2 ⟨hnull, rfl, rfl⟩, _, w, hread, w, w, ⟨rfl, rfl⟩, rfl, rfl⟩

theorem gives_fetch (hr : Rooted w.disk) (hname : PlainName (Shard.fileName s.id))
    (h : Holds w.disk (shardPath out s.id) (encodeText s.render))
    (hlen : (w.disk.resolve (shardPath out s.id)).toString.utf8ByteSize ≤ Disk.maxPathLength) :
    Gives (Store.fetch (w.disk.resolve out) s.id) w s.render w := by
  have hroot : shardPath (w.disk.resolve out) s.id = w.disk.resolve (shardPath out s.id) :=
    Path.child_resolve w.disk out hname
  have hholds : Holds w.disk (shardPath (w.disk.resolve out) s.id) (encodeText s.render) := by
    rw [hroot]
    exact h.resolve hr hlen
  exact hholds.gives_readText s.unify_render

theorem fetch_of_holds (hr : Rooted d) (hname : PlainName (Shard.fileName s.id))
    (h : Holds d (shardPath out s.id) (encodeText s.render))
    (hlen : (d.resolve (shardPath out s.id)).toString.utf8ByteSize ≤ Disk.maxPathLength) :
    (Store.source d (d.resolve out) m).fetch s.id = .ok s.render := by
  have hfetch : Gives (Store.fetch (d.resolve out) s.id) (World.mk d []) s.render (World.mk d []) :=
    gives_fetch (w := ⟨d, []⟩) hr hname h hlen
  have hrun : ((Store.fetch (d.resolve out) s.id).run ⟨d, []⟩).1 = .ok s.render :=
    congrArg Prod.fst hfetch
  simp only [Store.source, hrun]

/-! ### Directories that hold an index -/

/-- All files of an index hold their documents. -/
structure Stored (b : Build) (out : Path) (d : Disk) : Prop where
  numbers : b.manifest.Writable
  manifest : Holds d (manifestPath out) (encodeText b.manifest.render)
  shard : ∀ s ∈ b.shards, Holds d (shardPath out s.id) (encodeText s.render)

theorem Stored.openIndex (h : Stored b out w.disk) (hb : b.Built) (hr : Rooted w.disk)
    (hshort : Short b out w.disk) :
    ∃ source, Gives (Store.openIndex out) w source w ∧ Serves source b :=
  ⟨_, gives_openIndex hr h.numbers h.manifest hshort.manifest, rfl, fun s hs =>
    fetch_of_holds hr (plainName_of_mem_names hb (List.mem_map_of_mem (shardFile_mem hs)))
      (h.shard s hs) (hshort.shard hs)⟩

theorem Stored.of_grown (h : Stored b out d) (hg : Grown d d') : Stored b out d' :=
  ⟨h.numbers, h.manifest.of_grown hg, fun s hs => (h.shard s hs).of_grown hg⟩

/-- The manifest of a stored index can be read. -/
theorem Stored.read_manifest (h : Stored b out d) (hr : Rooted d) {content : List UInt8}
    (hc : d.tree.find? (placeOf d (manifestPath out)) = some (.file content)) :
    (File.decodeText content).toOption.map Manifest.read = some (.ok b.manifest) := by
  rw [h.manifest.find?_resolve hr] at hc
  obtain rfl := Node.file.inj (Option.some.inj hc)
  rw [decodeText_encodeText (Manifest.unify_render h.numbers)]
  exact congrArg some (Manifest.read_render h.numbers)

theorem Stored.listedIds_eq (h : Stored b out d) (hr : Rooted d) :
    listedIds d out = b.manifest.shardIds := by
  have hc := h.manifest.find?_resolve hr
  unfold listedIds
  simp only [hc, h.read_manifest hr hc]

/-- A write that removes no file of the new index stores it. -/
theorem Rewritten.stored (h : Rewritten b out d d')
    (hstale : ∀ s ∈ b.shards, placeOf d (shardPath out s.id) ∉ stalePlaces b d out) :
    Stored b out d' :=
  ⟨h.numbers, h.manifest, fun s hs => h.shard s hs (hstale s hs)⟩

/-- A build was written into a directory that had no index before. The working directory can be
reached from the top, no path from there to a file of the index is too long for the system, and
no number of the manifest is too long for a document. -/
structure Written (b : Build) (out : Path) (w w' : World) : Prop where
  rooted : Rooted w.disk
  fresh : ∀ content,
    w.disk.tree.find? (w.disk.resolve (manifestPath out)).names ≠ some (.file content)
  success : ∃ paths, Gives (write b out) w paths w'
  short : ∀ path ∈ manifestPath out :: b.shards.map fun s => shardPath out s.id,
    (w.disk.resolve path).toString.utf8ByteSize ≤ Disk.maxPathLength
  numbers : b.manifest.Writable

/-- A directory without a manifest lists nothing. -/
theorem listedIds_of_fresh (h : ∀ content,
    d.tree.find? (placeOf d (manifestPath out)) ≠ some (.file content)) : listedIds d out = [] := by
  unfold listedIds
  split
  · exact absurd ‹_› (h _)
  · rfl

/-- An index that was written can be opened, and it serves the build. -/
theorem Written.openIndex (h : Written (Build.lenient p records) out w w') :
    ∃ source, Gives (Store.openIndex out) w' source w' ∧
      Serves source (Build.lenient p records) := by
  obtain ⟨paths, hwrite⟩ := h.success
  have hb := Build.built_lenient p records
  have hrewritten := rewritten_of_gives hb h.rooted hwrite
  have hstored : Stored (Build.lenient p records) out w'.disk := by
    refine hrewritten.stored fun s _ hs => ?_
    rw [stalePlaces, listedIds_of_fresh h.fresh] at hs
    cases hs
  have hshort : Short (Build.lenient p records) out w.disk := h.short
  exact hstored.openIndex hb (hrewritten.kept.rooted h.rooted) (hshort.of_kept hrewritten.kept)

end SymbolIndex.Store
