import SymbolIndex.Proofs.Manifest.Agreement
import SymbolIndex.Proofs.Settings.File

/-!
# Settings that are loaded

Whatever a file holds, it stands for some settings (`Means`), which are valid and in force
(`means_inForce`). From valid settings a partition can be made and a session opened
(`Valid.exists_ofOptions`, `exists_session`). Settings that were loaded can be saved over any other
file, and loading it gives them again (`Means.gives_load_saved`).
-/

namespace SymbolIndex.Settings

open File Json SymbolIndex.Effect World

variable {ε : Type} {s : Settings} {path : Path} {d : Disk} {w w' : World} {content : List UInt8}

/-! ### What a file stands for -/

/-- The settings of a content: those of the members of the object that it is a document of, or the
defaults if it is no such document. -/
inductive Means (content : List UInt8) : Settings → Prop where
  | object {text : String} {m : Members} (htext : decodeText content = .ok text)
    (hread : Json.read text.toList = .ok (.obj m)) : Means content (ofMembers m)
  | other (h : ∀ text m, decodeText content = .ok text → Json.read text.toList ≠ .ok (.obj m)) :
    Means content default

theorem means_iff : Means content s ↔ ofMembers (membersOf content) = s := by
  unfold membersOf
  constructor
  · rintro (⟨htext, hread⟩ | hother)
    · rw [htext]
      dsimp only
      rw [hread]
    · split
      · rename_i text htext
        split
        · rename_i m hread
          exact absurd hread (hother text m htext)
        · rfl
      · rfl
  · rintro rfl
    split
    · rename_i text htext
      split
      · rename_i m hread
        exact .object htext hread
      · rename_i hno
        refine .other fun text' m htext' hread => hno m ?_
        rwa [Except.ok.inj (htext.symm.trans htext')]
    · rename_i e htext
      refine .other fun text m htext' => ?_
      rw [htext] at htext'
      cases htext'

theorem Means.valid (h : Means content s) : s.Valid := by
  obtain rfl := means_iff.1 h
  exact valid_ofMembers _

/-- The settings in force are those of the file. -/
theorem means_inForce (h : Holds d path content) : Means content (inForce path d) := by
  rw [means_iff, inForce, membersAt_of_holds h]

/-! ### What valid settings are good for -/

theorem Valid.shardCount_pos (h : s.Valid) : ∀ n ∈ s.shardCount.map Int.ofNat, 0 < n := by
  intro n hn
  obtain ⟨count, hcount, rfl⟩ := Option.map_eq_some_iff.1 hn
  have hadmits := h .shardCount
  rw [get, hcount] at hadmits
  rcases hadmits with hnone | ⟨-, m, hm, hnumber⟩
  · cases hnone
  · cases hnumber
    exact hm

theorem Valid.shardCount_of_alpha (h : s.Valid) (halpha : s.scheme = .alpha) :
    s.shardCount.map Int.ofNat = none := by
  have hadmits := h .shardCount
  rcases hadmits with hnone | ⟨hscheme, -⟩
  · cases hcount : s.shardCount with
    | none => rfl
    | some n =>
      rw [get, hcount] at hnone
      cases hnone
  · exact absurd halpha hscheme

/-- A partition is made with the scheme and the shard count of valid settings. -/
theorem Valid.exists_ofOptions (h : s.Valid) :
    ∃ p, Partition.ofOptions (.str s.scheme.name) (s.shardCount.map Int.ofNat) = .ok p ∧
      p.scheme = s.scheme ∧ p.shardCount?.map Int.ofNat =
        Partition.countInForce s.scheme (s.shardCount.map Int.ofNat) := by
  obtain ⟨p, hp⟩ := Partition.exists_ofScheme h.shardCount_of_alpha h.shardCount_pos
  refine ⟨p, ?_, Partition.of_ofScheme hp⟩
  rw [Partition.ofOptions, Partition.Scheme.ofJson?_name]
  exact hp

/-- A session opens in the mode of any settings. -/
theorem exists_session (s : Settings) (source : Source) (hasListener : Bool) :
    ∃ session, Session.ofOptions source (.str s.matchMode.name) (s.resultLimit.map Int.ofNat)
      s.loadWorkers hasListener = .ok session ∧ session.setup.mode = s.matchMode :=
  ⟨_, Session.ofOptions_eq_ok.2 ⟨s.matchMode, rfl, rfl⟩, rfl⟩

/-! ### Saving what was loaded -/

theorem Means.decoded_get (h : Means content s) (k : Key) : Decoded (s.get k).toJson := by
  obtain rfl := means_iff.1 h
  exact Settings.decoded_get (decoded_membersOf content) k

/-- Settings that were loaded are loaded again after they were saved. -/
theorem Means.gives_load_saved (h : Means content s) (hsave : Gives (save path s) w ⟨⟩ w') :
    Gives (load path : Effect ε Settings) w' s w' := by
  have hload : Gives (load path : Effect ε Settings) w' (inForce path w'.disk) w' :=
    gives_load path w'
  rwa [inForce_saved h.decoded_get hsave h.valid] at hload

/-- Loading never fails and gives valid settings, the ones that the file stands for if there is one;
the valid settings are those that reading gives, and each is read back from its own members. They
give a partition and a session. Settings that were loaded are saved over any file that can be
written to, and loading then gives them again. -/
theorem load_total_valid_stable :
    (∀ (ε : Type) path w, ∃ s, Gives (load path : Effect ε Settings) w s w ∧ s.Valid ∧
      ∀ content, Holds w.disk path content → Means content s) ∧
    (∀ s : Settings, s.Valid ↔ ∃ m, ofMembers m = s) ∧
    (∀ m, ofMembers (ofMembers m).toMembers = ofMembers m) ∧
    (∀ s : Settings, s.Valid →
      (∃ p, Partition.ofOptions (.str s.scheme.name) (s.shardCount.map Int.ofNat) = .ok p ∧
        p.scheme = s.scheme ∧ p.shardCount?.map Int.ofNat =
          Partition.countInForce s.scheme (s.shardCount.map Int.ofNat)) ∧
      ∀ source hasListener, ∃ session,
        Session.ofOptions source (.str s.matchMode.name) (s.resultLimit.map Int.ofNat)
          s.loadWorkers hasListener = .ok session ∧ session.setup.mode = s.matchMode) ∧
    ∀ content s, Means content s → ∀ path w,
      (∀ prior, Holds w.disk path prior → Takes w.disk path →
        ∃ w', Gives (save path s) w ⟨⟩ w') ∧
      ∀ w', Gives (save path s) w ⟨⟩ w' →
        ∀ ε : Type, Gives (load path : Effect ε Settings) w' s w' := by
  refine ⟨fun ε path w => ?_, fun s => valid_iff, fun m => ?_, fun s h => ?_,
    fun content s h path w => ⟨fun prior hw htakes => ?_, fun w' hsave ε => ?_⟩⟩
  · exact ⟨_, gives_load path w, valid_ofMembers _, fun content hw => means_inForce hw⟩
  · exact (valid_ofMembers m).ofMembers_toMembers
  · exact ⟨h.exists_ofOptions, s.exists_session⟩
  · exact exists_gives_save hw.gives_makeDirectories htakes s
  · exact h.gives_load_saved hsave

/-- A truth value for a number, and words and texts with blanks around them. -/
def sloppyMembers : Members :=
  [("load_workers", .bool true), ("scheme", .str " HASHED\n"), ("shard_count", .int 8),
    ("style", .str "\tvim ")]

def sloppySettings : Settings := ⟨true, .hashed, some 8, .anywhere, none, 4, "vim"⟩

/-- A file that is not UTF-8. -/
def brokenWorld : World := ⟨⟨⟨[(["config.json"], .file [0x7b, 0xff])]⟩, [], []⟩, []⟩

theorem load_total_valid_stable_sloppy :
    Means (encodeText (fileText sloppyMembers)) sloppySettings ∧ sloppySettings.Valid ∧
    Means [0x7b, 0xff] (inForce (.ofString "config.json") brokenWorld.disk) ∧
    (∃ p, Partition.ofOptions (.str "hashed") (some 8) = .ok p ∧ p.scheme = .hashed) ∧
    ∃ w', Gives (save (.ofString "config.json") sloppySettings) brokenWorld ⟨⟩ w' ∧
      Gives (load (.ofString "config.json") : Effect Empty Settings) w' sloppySettings w' := by
  obtain ⟨htotal, hvalid, -, hgood, hsaved⟩ := load_total_valid_stable
  have hdecoded : Decoded (.obj sloppyMembers) := by
    refine .obj (by decide) fun e he => ?_
    simp only [sloppyMembers, List.mem_cons, List.not_mem_nil, or_false] at he
    rcases he with rfl | rfl | rfl | rfl
    · exact .bool _
    · exact .str _
    · exact .int (by decide)
    · exact .str _
  have hmembers : membersOf (encodeText (fileText sloppyMembers)) = sloppyMembers := by
    have hsorted : sortedMembers sloppyMembers = sloppyMembers := rfl
    rw [membersOf_fileText hdecoded, hsorted]
    exact List.mergeSort_of_pairwise (by decide)
  have hread : ofMembers sloppyMembers = sloppySettings := by decide +kernel
  have hmeans : Means (encodeText (fileText sloppyMembers)) sloppySettings := by
    rw [means_iff, hmembers, hread]
  have hholds : Holds brokenWorld.disk (.ofString "config.json") [0x7b, 0xff] :=
    ⟨by decide +kernel, ["config.json"], rfl, rfl⟩
  have htakes : Takes brokenWorld.disk (.ofString "config.json") :=
    ⟨hholds.1, ["config.json"], rfl, nofun, rfl⟩
  have hsloppy : sloppySettings.Valid := (hvalid _).2 ⟨_, hread⟩
  obtain ⟨hwrite, hagain⟩ := hsaved _ _ hmeans (.ofString "config.json") brokenWorld
  obtain ⟨w', hw'⟩ := hwrite _ hholds htakes
  obtain ⟨s, hload, -, hs⟩ := htotal Empty (.ofString "config.json") brokenWorld
  obtain ⟨rfl, -⟩ := (gives_load _ _).unique hload
  obtain ⟨⟨p, hp, hscheme, -⟩, -⟩ := hgood sloppySettings hsloppy
  exact ⟨hmeans, hsloppy, hs _ hholds, ⟨p, hp, hscheme⟩, w', hw', hagain w' hw' Empty⟩

end SymbolIndex.Settings
