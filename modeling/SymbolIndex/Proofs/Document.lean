import SymbolIndex.Document
import SymbolIndex.Proofs.Except
import SymbolIndex.Proofs.Json.Decoded

/-!
# Documents are read back

A document with distinct names and values that can be written is read back, each name with its
value.
-/

namespace SymbolIndex.Document

open Json

theorem field_of_mem {m : Members} (hn : m.names.Nodup) {name : String} {v : Json}
    (h : (name, v) ∈ m) : field m name = v := by
  rw [field, Members.get?_of_mem hn h, Option.getD_some]

/-- The members of a text that is an object of the format, in the version there is. -/
theorem read_eq_ok {format text : String} {m : Members} : read format text = .ok m ↔
    Json.read text.toList = .ok (.obj m) ∧ isText (field m "format") format = true ∧
      (field m "version").isOne = true := by
  constructor
  · intro h
    unfold read at h
    obtain ⟨v, hv, h⟩ := bind_eq_ok.1 h
    split at h
    · dsimp only at h
      split at h
      · cases h
      · rename_i hformat
        split at h
        · cases h
        · rename_i hversion
          cases h
          rw [Bool.not_eq_true', Bool.not_eq_false] at hformat hversion
          exact ⟨mapError_eq_ok.1 hv, hformat, hversion⟩
    · cases h
  · rintro ⟨hv, hformat, hversion⟩
    rw [read, hv]
    simp [Except.mapError, bind, Except.bind, hformat, hversion]
    rfl

theorem decoded_of_read {format text : String} {m : Members} (h : read format text = .ok m) :
    Decoded (.obj m) := Json.decoded_of_read (read_eq_ok.1 h).1

theorem decoded_field {m : Members} (h : Decoded (.obj m)) (name : String) :
    Decoded (field m name) := by
  cases h with
  | obj hn hvalues =>
    unfold field
    cases hv : m.get? name with
    | none => exact .null
    | some v => exact hvalues _ ((Members.get?_eq_some hn).1 hv)

/-! ### The order of members -/

theorem isText_sorted (v : Json) (s : String) : isText (sorted v) s = isText v s := by
  cases v <;> rfl

theorem isOne_sorted (v : Json) : (sorted v).isOne = v.isOne := by
  cases v <;> rfl

theorem field_sortByName {m : Members} (hn : m.names.Nodup) (name : String) :
    field (sortByName (sortedMembers m)) name = sorted (field m name) := by
  rw [field, field, get?_sortByName hn]
  cases m.get? name <;> rfl

/-- A document is one still when its members are put in order. -/
theorem read_of_sorted {format text text' : String} {m : Members} (h : read format text = .ok m)
    (h' : Json.read text'.toList = .ok (sorted (.obj m))) :
    read format text' = .ok (sortByName (sortedMembers m)) ∧
      ∀ name, field (sortByName (sortedMembers m)) name = sorted (field m name) := by
  obtain ⟨-, hformat, hversion⟩ := read_eq_ok.1 h
  have hn : m.names.Nodup := by
    cases decoded_of_read h with
    | obj hn _ => exact hn
  rw [sorted_obj hn] at h'
  refine ⟨read_eq_ok.2 ⟨h', ?_, ?_⟩, field_sortByName hn⟩
  · rw [field_sortByName hn, isText_sorted, hformat]
  · rw [field_sortByName hn, isOne_sorted, hversion]

/-! ### Reading back -/

theorem writable_all (format : String) {members : Members} (hw : ∀ m ∈ members, Writable m.2) :
    Writable (.obj (("format", .str format) :: ("version", .int 1) :: members)) := by
  refine .obj fun e he => ?_
  rcases List.mem_cons.1 he with rfl | he
  · exact .str _
  rcases List.mem_cons.1 he with rfl | he
  · exact .int (by decide)
  · exact hw e he

/-- A document has no other line end than a line feed. -/
theorem unify_render (format : String) {members : Members} (hw : ∀ m ∈ members, Writable m.2) :
    Text.Lines.unify (render format members).toList = (render format members).toList := by
  rw [render, String.toList_ofList]
  exact (writable_all format hw).unify_compact

theorem read_render (format : String) (members : Members)
    (hn : ("format" :: "version" :: members.names).Nodup)
    (hw : ∀ m ∈ members, Writable m.2) :
    ∃ m, read format (render format members) = .ok m ∧
      ∀ name v, (name, v) ∈ members → field m name = sorted v := by
  let all : Members := ("format", .str format) :: ("version", .int 1) :: members
  have hdistinct : all.names.Nodup := hn
  have hnames : (sortByName (sortedMembers all)).names.Nodup := nodup_names_sorted hdistinct
  have hfield : ∀ name v, (name, v) ∈ all →
      field (sortByName (sortedMembers all)) name = sorted v :=
    fun name v h => field_of_mem hnames (mem_sorted h)
  have hall : Writable (.obj all) := writable_all format hw
  have hread : Json.read (render format members).toList =
      .ok (.obj (sortByName (sortedMembers all))) := by
    rw [render, String.toList_ofList, read_compact hall, sorted_obj hdistinct]
  have hf := hfield "format" (.str format) (by simp [all])
  have hv := hfield "version" (.int 1) (by simp [all])
  refine ⟨_, read_eq_ok.2 ⟨hread, ?_, ?_⟩, fun name v h => hfield name v (by simp [all, h])⟩
  · rw [hf, isText_sorted, isText, beq_self_eq_true]
  · rw [hv, isOne_sorted]
    rfl

end SymbolIndex.Document
