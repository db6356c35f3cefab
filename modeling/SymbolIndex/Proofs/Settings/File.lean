import SymbolIndex.Proofs.Json.Indented
import SymbolIndex.Proofs.Settings.Update
import SymbolIndex.Proofs.World

/-!
# Settings on a disk

Reading the settings never fails and changes nothing: `membersAt` are the members of the file at a
path, and `inForce` the settings that they stand for. Members that are saved are found again, in
the order of their names (`membersAt_of_gives_save`), so valid settings that are saved are in
force afterwards (`inForce_saved`), and the members that are no settings say what they said before
(`alike_saved`).
-/

namespace SymbolIndex.Settings

open File Json SymbolIndex.Effect World

variable {ε : Type} {m : Members} {path : Path} {d : Disk} {w w' : World} {s : Settings}
  {key : Key} {value : Value} {name given : String} {content : List UInt8}

/-- The members of the configuration file of a disk: those that are loaded (`gives_loadMembers`). -/
def membersAt (path : Path) (d : Disk) : Json.Members :=
  match (outcome (File.Effect.read path) d).1 with
  | .ok content => membersOf content
  | .error _ => []

/-- The settings in force: those that are loaded (`gives_load`). -/
def inForce (path : Path) (d : Disk) : Settings := ofMembers (membersAt path d)

theorem gives_loadMembers (path : Path) (w : World) :
    Gives (loadMembers path : World.Effect ε Json.Members) w (membersAt path w.disk) w := by
  unfold loadMembers membersAt
  refine gives_bind.2 ⟨w, w, gives_get.2 ⟨rfl, rfl⟩, ?_⟩
  have hrun : (File.Effect.read path).run w.disk = outcome (File.Effect.read path) w.disk := rfl
  rw [hrun]
  rcases (outcome (File.Effect.read path) w.disk).1 with _ | content
  · exact gives_pure.2 ⟨rfl, rfl⟩
  · exact gives_pure.2 ⟨rfl, rfl⟩

theorem gives_load (path : Path) (w : World) :
    Gives (load path : World.Effect ε Settings) w (inForce path w.disk) w :=
  gives_bind.2 ⟨_, w, gives_loadMembers path w, gives_pure.2 ⟨rfl, rfl⟩⟩

/-! ### What a file says -/

theorem decoded_membersOf (content : List UInt8) : Decoded (.obj (membersOf content)) := by
  have hnone : Decoded (.obj []) := .obj List.nodup_nil nofun
  unfold membersOf
  split
  · split
    · exact decoded_of_read ‹_›
    · exact hnone
  · exact hnone

theorem decoded_membersAt (path : Path) (d : Disk) : Decoded (.obj (membersAt path d)) := by
  unfold membersAt
  split
  · exact decoded_membersOf _
  · exact .obj List.nodup_nil nofun

theorem membersAt_of_holds (h : Holds d path content) : membersAt path d = membersOf content := by
  have hread : Gives (File.Effect.read path) d content d := File.gives_read.2 ⟨h.1, rfl, h.2⟩
  rw [membersAt, show outcome (File.Effect.read path) d = (.ok content, d) from hread]

/-- The members of a file are found in the order of their names. -/
theorem membersOf_fileText (h : Decoded (.obj m)) :
    membersOf (encodeText (fileText m)) = sortByName (sortedMembers m) := by
  have hread : Json.read (fileText m).toList = .ok (sorted (.obj m)) := by
    rw [fileText, String.toList_ofList]
    exact read_pretty h.writable true
  have hunify : Text.Lines.unify (fileText m).toList = (fileText m).toList := by
    rw [fileText, String.toList_ofList]
    exact h.writable.unify_pretty true
  cases h with
  | obj hn _ =>
    rw [membersOf, decodeText_encodeText hunify]
    dsimp only
    rw [hread, sorted_obj hn]

/-! ### Saving -/

theorem sorted_toJson (value : Value) : sorted value.toJson = value.toJson := by
  cases value <;> rfl

section
variable {u : Unit} (hs : ∀ k, Decoded (s.get k).toJson) (hsave : Gives (save path s) w u w')
include hs hsave

/-- Members that are saved are found again. -/
theorem membersAt_of_gives_save : membersAt path w'.disk =
    sortByName (sortedMembers (mergeMembers (membersAt path w.disk) s)) := by
  have hm := decoded_mergeMembers (decoded_membersAt path w.disk) hs
  unfold save at hsave
  obtain ⟨m, w₁, hload, hrest⟩ := gives_bind.1 hsave
  obtain ⟨rfl, rfl⟩ := (gives_loadMembers path w).unique hload
  obtain ⟨_, w₂, _, hwrite⟩ := gives_bind.1 hrest
  unfold writeText at hwrite
  obtain ⟨d, hd, rfl⟩ := gives_onDisk.1 hwrite
  obtain ⟨hn, l, hl, hadmits, rfl⟩ := gives_write.1 hd
  rw [← membersOf_fileText hm]
  exact membersAt_of_holds (holds_withFile hn hl hadmits.file)

theorem get?_saved (name : String) : (membersAt path w'.disk).get? name =
    ((mergeMembers (membersAt path w.disk) s).get? name).map sorted := by
  have hm := decoded_mergeMembers (decoded_membersAt path w.disk) hs
  rw [membersAt_of_gives_save hs hsave]
  cases hm with
  | obj hn _ => exact get?_sortByName hn name

theorem get?_saved_name (k : Key) :
    (membersAt path w'.disk).get? k.name = some (s.get k).toJson := by
  rw [get?_saved hs hsave, get?_mergeMembers, Option.map_some, sorted_toJson]

/-- Valid settings that were saved are in force. -/
theorem inForce_saved (h : s.Valid) : inForce path w'.disk = s :=
  h.ofMembers_eq (get?_saved_name hs hsave)

/-- The members that are no settings say what they said before. -/
theorem alike_saved (ho : Key.ofName? name = none) :
    Option.Rel Alike ((membersAt path w.disk).get? name) ((membersAt path w'.disk).get? name) := by
  rw [get?_saved hs hsave, get?_mergeMembers_of_unknown ho]
  have hm := decoded_membersAt path w.disk
  cases hv : (membersAt path w.disk).get? name with
  | none => exact .none
  | some v =>
    cases hm with
    | obj hn hvalues => exact .some (hvalues _ ((Members.get?_eq_some hn).1 hv)).alike_sorted

end

/-- Settings can be saved where a file can be written after the directories above it are made. -/
theorem exists_gives_save {d' : Disk}
    (hdirs : Gives (File.Effect.makeDirectories path.parent) w.disk ⟨⟩ d') (h : Takes d' path)
    (s : Settings) : ∃ w', Gives (save path s) w ⟨⟩ w' := by
  have hmake : Gives (onDisk id (File.Effect.makeDirectories path.parent)) w ⟨⟩
      { w with disk := d' } := gives_onDisk.2 ⟨d', hdirs, rfl⟩
  obtain ⟨w', hwrite⟩ : ∃ w', Gives (writeText id path
      (fileText (mergeMembers (membersAt path w.disk) s))) { w with disk := d' } ⟨⟩ w' :=
    exists_gives_writeText _ h
  exact ⟨w', gives_bind.2 ⟨_, w, gives_loadMembers path w, gives_bind.2 ⟨_, _, hmake, hwrite⟩⟩⟩

/-! ### A change that is saved -/

/-- A change that was saved is in force. -/
theorem Accepted.inForce_saved (h : Accepted (membersAt path w.disk) name given key value)
    (hsave : Gives (save path (changed (membersAt path w.disk) key value)) w ⟨⟩ w') :
    inForce path w'.disk = changed (membersAt path w.disk) key value :=
  Settings.inForce_saved (h.decoded_get (decoded_membersAt path w.disk)) hsave (valid_ofMembers _)

/-- The members that are no settings say what they said before. -/
theorem Accepted.alike_saved (h : Accepted (membersAt path w.disk) name given key value)
    (hsave : Gives (save path (changed (membersAt path w.disk) key value)) w ⟨⟩ w')
    {other : String} (ho : Key.ofName? other = none) :
    Option.Rel Alike ((membersAt path w.disk).get? other) ((membersAt path w'.disk).get? other) :=
  Settings.alike_saved (h.decoded_get (decoded_membersAt path w.disk)) hsave ho

end SymbolIndex.Settings
