import Mathlib.Data.List.Infix
import SymbolIndex.Proofs.Key.Normal

/-!
# Keys of joined texts

Canonical order may carry a mark over the place where two texts meet, but no mark has a key
character in what it folds to (`isStarter_of_mem_foldChar`), so nothing that moves is kept. Each
character contributes to the key on its own (`normalizeChars_eq_flatMap`), and the key of a joined
text is the joined keys.
-/

namespace SymbolIndex.Key

open Unicode

variable {s : List Char} {c k : Char}

/-! ### Key characters come from starters -/

/-- If an entry of the folding table gives a character a key character, that is a starter. -/
def isStarterEntry (entry : Nat) : Bool :=
  match entryDigits 24 entry [] with
  | [] => true
  | d :: image => !(image.map Char.ofNat).any isKeyChar || combiningClass (Char.ofNat d) == 0

theorem isStarterEntry_of_mem_table :
    (CaseFolding.table.all fun row => row.2.all isStarterEntry) = true := by
  decide +kernel

theorem isStarter_of_entryImage? {entry : Nat} {image : List Char}
    (h : isStarterEntry entry = true) (himage : entryImage? c.toNat entry = some image)
    (hk : k ∈ image) (hkey : isKeyChar k = true) : combiningClass c = 0 := by
  unfold isStarterEntry at h
  unfold entryImage? at himage
  split at himage
  · cases himage
  · rename_i d ds hdigits
    split at himage
    · rename_i hd
      obtain rfl := Option.some.inj himage
      rw [hdigits, hd] at h
      dsimp only at h
      have hany : (ds.map Char.ofNat).any isKeyChar = true := List.any_eq_true.2 ⟨k, hk, hkey⟩
      rw [hany, Char.ofNat_toNat, Bool.not_true, Bool.false_or, beq_iff_eq] at h
      exact h
    · cases himage

theorem isStarter_of_image? {image : List Char} (himage : CaseFolding.table.image? c = some image)
    (hk : k ∈ image) (hkey : isKeyChar k = true) : combiningClass c = 0 := by
  unfold Table.image? at himage
  obtain ⟨row, hrow, himage⟩ := Option.bind_eq_some_iff.1 himage
  obtain ⟨entry, hentry, himage⟩ := List.exists_of_findSome?_eq_some himage
  have hall := List.all_eq_true.1 isStarterEntry_of_mem_table row (List.mem_of_find?_eq_some hrow)
  exact isStarter_of_entryImage? (List.all_eq_true.1 hall entry hentry) himage hk hkey

theorem isStarter_of_lt (h : c.toNat < 0x300) : combiningClass c = 0 := if_pos h

/-- A character that folds to a key character is no mark. -/
theorem isStarter_of_mem_foldChar (hk : k ∈ foldChar c) (hkey : isKeyChar k = true) :
    combiningClass c = 0 := by
  unfold foldChar at hk
  split at hk
  · exact isStarter_of_lt (by omega)
  · cases himage : CaseFolding.table.image? c with
    | some image =>
      rw [himage, Option.getD_some] at hk
      exact isStarter_of_image? himage hk hkey
    | none =>
      rw [himage, Option.getD_none, List.mem_singleton] at hk
      exact isStarter_of_lt (hk ▸ Nat.lt_trans (toNat_lt_of_isKeyChar hkey) (by decide))

/-! ### Contributions -/

/-- What a character of a text that is taken apart contributes to the key. -/
def contribution (c : Char) : List Char := (foldChar c).filter isKeyChar

theorem contribution_of_mark (h : 0 < combiningClass c) : contribution c = [] := by
  rw [contribution, List.filter_eq_nil_iff]
  intro k hk hkey
  exact absurd (isStarter_of_mem_foldChar hk hkey) (Nat.ne_of_gt h)

/-- A character contributes behind all others, wherever it is put: it moves only if it is a mark,
and then it contributes nothing. -/
theorem flatMap_insertMark (c : Char) (done : List Char) :
    (insertMark c done).reverse.flatMap contribution =
      done.reverse.flatMap contribution ++ contribution c := by
  induction done with
  | nil => simp [insertMark]
  | cons d done ih =>
    rw [insertMark]
    split
    · rename_i hmoves
      rw [List.reverse_cons, List.flatMap_append, ih, List.reverse_cons, List.flatMap_append,
        contribution_of_mark hmoves.1, List.append_nil, List.append_nil]
    · rw [List.reverse_cons, List.flatMap_append, List.flatMap_singleton]

theorem flatMap_canonicalOrder (s : List Char) :
    (canonicalOrder s).flatMap contribution = s.flatMap contribution := by
  have hfold : ∀ done : List Char,
      (s.foldl (fun done c => insertMark c done) done).reverse.flatMap contribution =
        done.reverse.flatMap contribution ++ s.flatMap contribution := by
    induction s with
    | nil => simp
    | cons c s ih =>
      intro done
      rw [List.foldl_cons, ih, flatMap_insertMark, List.append_assoc, List.flatMap_cons]
  exact hfold []

theorem normalizeChars_eq_flatMap (s : List Char) :
    normalizeChars s = s.flatMap fun c => (decompose c).flatMap contribution := by
  rw [normalizeChars, fold, List.filter_flatMap, nfkd]
  exact (flatMap_canonicalOrder _).trans List.flatMap_assoc

theorem normalize_append (a b : String) : normalize (a ++ b) = normalize a ++ normalize b := by
  rw [normalize, normalize, normalize, ← String.ofList_append, String.toList_append]
  simp only [normalizeChars_eq_flatMap, List.flatMap_append]

/-! ### The alphabet -/

def alphabet : List Char := "abcdefghijklmnopqrstuvwxyz0123456789_~".toList

theorem isKeyChar_iff_mem_alphabet : isKeyChar c = true ↔ c ∈ alphabet := by
  constructor
  · have hascii : ∀ c : Char, c.toNat < 128 → isKeyChar c = true → c ∈ alphabet :=
      Text.of_ascii (by decide +kernel)
    exact fun h => hascii c (toNat_lt_of_isKeyChar h) h
  · have hall : alphabet.all isKeyChar = true := by decide +kernel
    exact List.all_eq_true.1 hall c

/-- A text is its own key just if it is over the alphabet. -/
theorem normalize_eq_self_iff {text : String} :
    normalize text = text ↔ text.toList ⊆ alphabet := by
  constructor
  · intro h c hc
    rw [← h] at hc
    exact isKeyChar_iff_mem_alphabet.1 (isKeyChar_of_mem_normalize hc)
  · intro h
    rw [normalize, normalizeChars_of_isKeyChar fun c hc => isKeyChar_iff_mem_alphabet.2 (h hc),
      String.ofList_toList]

/-- Normalizing respects joining of texts, whatever marks stand where they meet. It gives texts
over the alphabet, all of them, and leaves these as they are. So a longer text has a longer key,
and the key of a part of a name is a part of the name's key. -/
theorem normalize_homomorphism :
    (∀ a b, normalize (a ++ b) = normalize a ++ normalize b) ∧
    (∀ a, (normalize a).toList ⊆ alphabet) ∧
    (∀ a, normalize (normalize a) = normalize a) ∧
    (∀ key, normalize key = key ↔ key.toList ⊆ alphabet) ∧
    (∀ text more, (normalize text).toList <+: (normalize (text ++ more)).toList) ∧
    ∀ before part behind,
      (normalize part).toList <:+: (normalize (before ++ part ++ behind)).toList := by
  refine ⟨normalize_append, fun a => ?_, normalize_normalize, fun key => normalize_eq_self_iff,
    fun text more => ?_, fun before part behind => ?_⟩
  · exact normalize_eq_self_iff.1 (normalize_normalize a)
  · rw [normalize_append, String.toList_append]
    exact List.prefix_append _ _
  · rw [normalize_append, normalize_append, String.toList_append, String.toList_append]
    exact ⟨_, _, rfl⟩

/-- The dot below moves over the place where the texts meet, in front of the accent. -/
example : Unicode.nfkd "E\u0301".toList ++ Unicode.nfkd "\u0323F".toList ≠
      Unicode.nfkd "E\u0301\u0323F".toList ∧
    normalize "E\u0301\u0323F" = "ef" := by
  decide +kernel

end SymbolIndex.Key
