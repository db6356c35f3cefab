import SymbolIndex.Proofs.Json.Controls

/-!
# Reading indented text

The indented text of a value says the same as its text on one line: the reader takes it for the
value with its members in the order of their names (`Writable.reads_pretty`), at each level and
with or without escapes for the characters outside ASCII. Line ends stand between its parts, and
no other control character is in it (`Texts.only_pretty`).
-/

namespace SymbolIndex.Json

variable {p : Char → Prop} {v : Json}

theorem prettyItems_eq (ascii : Bool) (level : Nat) (vs : List Json) :
    prettyItems ascii level vs = vs.map (prettyAt ascii level) := by
  induction vs with
  | nil => rfl
  | cons v vs ih => rw [prettyItems, ih, List.map_cons]

theorem prettyMembers_eq (ascii : Bool) (level : Nat) (ms : Members) :
    prettyMembers ascii level ms = ms.map fun m => (m.1, prettyAt ascii level m.2) := by
  induction ms with
  | nil => rfl
  | cons m ms ih => rw [prettyMembers, ih, List.map_cons]

/-- The members of an object, as they are written. -/
theorem prettyMembers_texts (ascii : Bool) (level : Nat) (ms : Members) :
    ((sortMembers (prettyMembers ascii level ms)).map fun m =>
      stringText ascii m.1.toList ++ ':' :: ' ' :: m.2) =
      (sortByName ms).map fun m => memberText ascii m.1 [' '] (prettyAt ascii level m.2) := by
  have hsort : sortMembers (prettyMembers ascii level ms) =
      (sortByName ms).map fun m => (m.1, prettyAt ascii level m.2) := by
    rw [prettyMembers_eq, sortMembers, sortByName, List.map_mergeSort]
    intro a _ b _; rfl
  rw [hsort, List.map_map]
  rfl

theorem block_cons (opening closing : Char) (level : Nat) (part : List Char)
    (parts : List (List Char)) : block opening closing level (part :: parts) =
      opening :: (newLine (level + 1) ++ ((',' :: newLine (level + 1)).intercalate (part :: parts) ++
        (newLine level ++ [closing]))) := by
  simp [block]

/-! ### Reading -/

theorem blank_newLine (level : Nat) : Blank (newLine level) := by
  intro c hc
  rcases List.mem_cons.1 hc with rfl | hc
  · rfl
  · rw [List.eq_of_mem_replicate hc]
    rfl

theorem blank_singleton {c : Char} (h : isSpace c = true) : Blank [c] := by
  intro d hd
  rwa [List.mem_singleton.1 hd]

theorem Writable.reads_pretty (h : Writable v) (ascii : Bool) (level : Nat) :
    Reads (sorted v) (prettyAt ascii level v) := by
  induction h generalizing level with
  | null => exact Reads.null
  | bool b => exact Reads.bool b
  | int hn => exact Reads.int hn
  | float hx => exact Reads.float hx
  | str s => exact Reads.str ascii s
  | @arr vs _ ih =>
    rw [sorted, prettyAt, sortedItems_eq, prettyItems_eq]
    cases vs with
    | nil => exact Reads.arr_nil blank_nil
    | cons v vs =>
      rw [List.map_cons (f := prettyAt ascii (level + 1)), block_cons]
      exact Reads.arr (blank_newLine _) (ReadsItems.intercalate (blank_newLine _)
        (blank_newLine _) fun v hv => ih v hv (level + 1))
  | @obj ms _ ih =>
    rw [sorted, prettyAt, sortedMembers_sort, prettyMembers_texts]
    have hr : ∀ m ∈ sortByName ms, Reads (sorted m.2) (prettyAt ascii (level + 1) m.2) :=
      fun m hm => ih m ((sortByName_perm ms).mem_iff.1 hm) (level + 1)
    cases hms : sortByName ms with
    | nil => exact Reads.obj_nil blank_nil
    | cons m rest =>
      rw [hms] at hr
      have hmembers := ReadsMembers.intercalate (·.1) ascii (blank_newLine (level + 1))
        (blank_newLine level) (blank_singleton (c := ' ') rfl) hr
      have hread := Reads.obj (blank_newLine (level + 1)) hmembers
      rw [List.map_cons] at hread ⊢
      rw [List.map_cons, block_cons]
      exact hread

theorem read_pretty (h : Writable v) (ascii : Bool) :
    read (pretty ascii v ++ ['\n']) = .ok (sorted v) := by
  rw [pretty]
  exact (h.reads_pretty ascii 0).read (blank_singleton rfl)

/-! ### Characters -/

theorem only_newLine (hp : ∀ c, Printable c → p c) (hfeed : p '\n') (level : Nat) :
    Only p (newLine level) := .cons hfeed (only_replicate (hp _ (by decide)) _)

theorem only_block (hp : ∀ c, Printable c → p c) (hfeed : p '\n') {opening closing : Char}
    (ho : Printable opening) (hc : Printable closing) (level : Nat) {parts : List (List Char)}
    (h : ∀ part ∈ parts, Only p part) : Only p (block opening closing level parts) := by
  have hline := only_newLine hp hfeed
  cases parts with
  | nil => exact .cons (hp _ ho) (.cons (hp _ hc) only_nil)
  | cons part parts =>
    rw [block_cons]
    have hseparator : Only p (',' :: newLine (level + 1)) := .cons (hp _ (by decide)) (hline _)
    exact .cons (hp _ ho) ((hline _).append ((hseparator.intercalate h).append
      ((hline _).append (.cons (hp _ hc) only_nil))))

theorem Texts.only_pretty (h : Texts p v) (hp : ∀ c, Printable c → p c) (hfeed : p '\n')
    (ascii : Bool) (level : Nat) : Only p (prettyAt ascii level v) := by
  induction h generalizing level with
  | null => exact Only.mono (printable_of_all rfl) hp
  | bool b => exact (printable_boolText b).mono hp
  | int n => exact (printable_intText n).mono hp
  | float x => exact (printable_floatText x).mono hp
  | str hs => exact only_stringText hp ascii hs
  | @arr vs _ ih =>
    rw [prettyAt, prettyItems_eq]
    refine only_block hp hfeed (by decide) (by decide) level fun part hpart => ?_
    obtain ⟨v, hv, rfl⟩ := List.mem_map.1 hpart
    exact ih v hv (level + 1)
  | @obj ms hn _ ih =>
    rw [prettyAt, prettyMembers_texts]
    refine only_block hp hfeed (by decide) (by decide) level fun part hpart => ?_
    obtain ⟨m, hm, rfl⟩ := List.mem_map.1 hpart
    have hmem := (sortByName_perm ms).mem_iff.1 hm
    exact (only_stringText hp ascii (hn m hmem)).append
      (.cons (hp _ (by decide)) (.cons (hp _ (by decide)) (ih m hmem (level + 1))))

/-- The line ends of an indented text are line feeds already. -/
theorem Writable.unify_pretty (h : Writable v) (ascii : Bool) :
    Text.Lines.unify (pretty ascii v ++ ['\n']) = pretty ascii v ++ ['\n'] := by
  have honly : Only (fun c => 0x20 ≤ c.toNat ∨ c = '\n') (pretty ascii v) :=
    (h.texts fun _ => .inl).only_pretty (fun _ hc => .inl hc.1) (.inr rfl) ascii 0
  exact unify_of_only honly (by decide)

end SymbolIndex.Json
