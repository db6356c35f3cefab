import SymbolIndex.Proofs.CommandLine.Run
import SymbolIndex.Proofs.Store.ReadBack
import SymbolIndex.Proofs.Terminal.Shard

/-!
# What is printed for a shard

Without colours, the text that is printed for a shard of a stored index has nothing in it that a
terminal acts on. It can be read as the shard if no text of the shard has DEL or a control
character behind it, and only then (`display_prints_shard`).
-/

namespace SymbolIndex.CommandLine

open File SymbolIndex.Effect Store World

variable {b : Build} {s : Shard} {w : World} {dir configPath : Path} {d : Disk}
  {arguments : List String} {isVerbose : Bool}

/-- A shard that is stored as its document is shown as its indented document. -/
theorem exists_gives_runDisplay (hb : b.Built) (hs : s ∈ b.shards) (hr : Rooted w.disk)
    (h : Holds w.disk (shardPath dir s.id) (encodeText s.render))
    (hlen : (w.disk.resolve (shardPath dir s.id)).toString.utf8ByteSize ≤ Disk.maxPathLength)
    (noColor : Bool) : ∃ text, Terminal.prettyDocument s.render = .ok text ∧
      Gives (runDisplay dir s.id noColor) w
        { Output.ofText (Terminal.sanitize text) with isColored := !noColor } w := by
  have hname : PlainName (Shard.fileName s.id) :=
    plainName_of_mem_names hb (List.mem_map_of_mem (shardFile_mem hs))
  have hnull : dir.hasNull = false := ((hasNull_child hname).1 h.1).1
  refine ⟨_, Terminal.prettyDocument_render s, ?_⟩
  unfold runDisplay
  simp only [gives_bind, gives_adapt, gives_ofExcept, gives_pure]
  exact ⟨_, w, gives_locate.2 ⟨hnull, rfl, rfl⟩, _, w, gives_fetch hr hname h hlen, s, w,
    ⟨Shard.read_render (hb.wellFormed hs), rfl⟩, _, w, ⟨Terminal.prettyDocument_render s, rfl⟩, rfl,
    rfl⟩

/-- What is printed for a shard without colours is harmless, and it is read as the shard exactly
if no text of the shard has a control character from DEL on. -/
theorem display_prints_shard (hb : b.Built) (hs : s ∈ b.shards) (hr : Rooted d)
    (h : Holds d (shardPath dir s.id) (encodeText s.render))
    (hlen : (d.resolve (shardPath dir s.id)).toString.utf8ByteSize ≤ Disk.maxPathLength)
    (hread : Invocation.read arguments = .ok ⟨isVerbose, .display dir s.id true⟩) :
    ∃ text, run configPath d arguments = (.done (.ofText text), [], d) ∧
      (∀ c ∈ text.toList, Terminal.Harmless c) ∧
      ((∀ t ∈ Terminal.textsOf s, Terminal.Clean t) → Shard.read text = .ok s) ∧
      ((¬ ∀ t ∈ Terminal.textsOf s, Terminal.Clean t) → ∃ e, Shard.read text = .error e) := by
  obtain ⟨text, hp, hgives⟩ := exists_gives_runDisplay (w := ⟨d, []⟩) hb hs hr h hlen true
  refine ⟨Terminal.sanitize text, run_of_gives hread hgives, Terminal.harmless_sanitize text,
    fun hclean => ?_, fun hbad => ?_⟩
  · exact Terminal.read_sanitize_of_safe (hb.wellFormed hs) hclean hp
  · exact Terminal.read_sanitize_of_high hbad hp

/-! ### Indexes of one name -/

/-- The index of one name. -/
abbrev displayBuild (name : String) : Build :=
  .lenient .alpha [.ofText "" name [⟨"a.html", ""⟩]]

/-- A disk with the file of one shard. -/
def displayDisk (s : Shard) : Disk where
  tree := ⟨[(["idx", "a.json"], .file (encodeText s.render)), (["idx"], .directory)]⟩
  cwd := []

def displayArguments : List String := ["show", "idx", "a", "--no-color"]

theorem read_displayArguments :
    Invocation.read displayArguments = .ok ⟨false, .display (.ofString "idx") "a" true⟩ :=
  toOption_eq_some.1 (by decide +kernel)

theorem rooted_displayDisk (s : Shard) : Rooted (displayDisk s) := ⟨standing_nil _, nofun⟩

theorem holds_displayDisk (h : s.id = "a") :
    Holds (displayDisk s) (shardPath (.ofString "idx") s.id) (encodeText s.render) := by
  rw [h]
  exact ⟨by decide +kernel, ["idx", "a.json"], rfl, rfl⟩

theorem short_displayDisk (h : s.id = "a") :
    ((displayDisk s).resolve (shardPath (.ofString "idx") s.id)).toString.utf8ByteSize ≤
      Disk.maxPathLength := by
  have hresolve : (displayDisk s).resolve (shardPath (.ofString "idx") s.id) =
      (⟨⟨[]⟩, [], []⟩ : Disk).resolve (shardPath (.ofString "idx") s.id) := rfl
  rw [hresolve, h]
  decide +kernel

/-- A name with an escape character and a quote. -/
def escapeShard : Shard := ⟨"a", [⟨"ab", "a\x1b\"b", [⟨"a.html", ""⟩]⟩]⟩

/-- A name with DEL. -/
def deleteShard : Shard := ⟨"a", [⟨"ab", "a\x7fb", [⟨"a.html", ""⟩]⟩]⟩

theorem mem_displayBuild : escapeShard ∈ (displayBuild "a\x1b\"b").shards ∧
    deleteShard ∈ (displayBuild "a\x7fb").shards := by
  decide +kernel

theorem display_prints_shard_escape : ∃ text,
    run (.ofString "config.json") (displayDisk escapeShard) displayArguments =
      (.done (.ofText text), [], displayDisk escapeShard) ∧
    (∀ c ∈ text.toList, Terminal.Harmless c) ∧ Shard.read text = .ok escapeShard := by
  have hb : (displayBuild "a\x1b\"b").Built := Build.built_lenient _ _
  obtain ⟨text, hrun, hharmless, hclean, -⟩ :=
    display_prints_shard hb mem_displayBuild.1 (rooted_displayDisk _) (holds_displayDisk rfl)
      (short_displayDisk rfl) read_displayArguments
  exact ⟨text, hrun, hharmless, hclean (by decide)⟩

/-- The shard of a built index is printed, but what is printed cannot be read. -/
theorem delete_displayed_unreadable :
    (displayBuild "a\x7fb").Built ∧ deleteShard ∈ (displayBuild "a\x7fb").shards ∧
    Holds (displayDisk deleteShard) (shardPath (.ofString "idx") "a")
      (encodeText deleteShard.render) ∧
    ∃ text, run (.ofString "config.json") (displayDisk deleteShard) displayArguments =
      (.done (.ofText text), [], displayDisk deleteShard) ∧ ∃ e, Shard.read text = .error e := by
  have hb : (displayBuild "a\x7fb").Built := Build.built_lenient _ _
  have hholds : Holds (displayDisk deleteShard) (shardPath (.ofString "idx") deleteShard.id)
    (encodeText deleteShard.render) := holds_displayDisk rfl
  obtain ⟨text, hp, hgives⟩ := exists_gives_runDisplay (w := ⟨displayDisk deleteShard, []⟩) hb
    mem_displayBuild.2 (rooted_displayDisk _) hholds (short_displayDisk rfl) true
  exact ⟨hb, mem_displayBuild.2, hholds, _, run_of_gives read_displayArguments hgives,
    Terminal.read_sanitize_of_high (by decide) hp⟩

end SymbolIndex.CommandLine
