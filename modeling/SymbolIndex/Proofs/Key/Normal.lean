import SymbolIndex.Key.Basic
import SymbolIndex.Proofs.Text.Ascii

/-!
# Normal keys

A *normal* text consists of key characters. Normalizing gives normal text and leaves normal text
as it is, and a normal key is its own sort text: different keys never tie.
-/

namespace SymbolIndex.Key

variable {s : List Char} {c : Char}

theorem toNat_lt_of_isKeyChar (h : isKeyChar c = true) : c.toNat < 128 := by
  simp only [isKeyChar, Bool.or_eq_true, beq_iff_eq, Text.isLower_iff_toNat,
    Text.isDigit_iff_toNat] at h
  rcases h with ((h | h) | rfl) | rfl
  · omega
  · omega
  · decide
  · decide

theorem not_isUpper_of_isKeyChar (h : isKeyChar c = true) : ¬ c.isUpper = true := by
  have hascii : ∀ c : Char, c.toNat < 128 → isKeyChar c = true → ¬ c.isUpper = true :=
    Text.of_ascii (by decide +kernel)
  exact hascii c (toNat_lt_of_isKeyChar h) h

theorem toLower_of_isKeyChar (h : isKeyChar c = true) : c.toLower = c :=
  Text.toLower_of_not_isUpper (not_isUpper_of_isKeyChar h)

/-! ### Normal text is left as it is -/

theorem fold_of_isKeyChar (h : ∀ c ∈ s, isKeyChar c = true) : Unicode.fold s = s := by
  induction s with
  | nil => rfl
  | cons c s ih =>
    have hc := h c List.mem_cons_self
    rw [Unicode.fold, List.flatMap_cons, ← Unicode.fold,
      ih fun d hd => h d (List.mem_cons_of_mem _ hd), Unicode.foldChar, if_pos (toNat_lt_of_isKeyChar hc), toLower_of_isKeyChar hc]
    rfl

theorem decompose_of_isKeyChar (h : ∀ c ∈ s, isKeyChar c = true) :
    s.flatMap Unicode.decompose = s := by
  induction s with
  | nil => rfl
  | cons c s ih =>
    rw [List.flatMap_cons, ih fun d hd => h d (List.mem_cons_of_mem _ hd), Unicode.decompose,
      if_pos (toNat_lt_of_isKeyChar (h c List.mem_cons_self))]
    rfl

theorem insertMark_of_isKeyChar (h : isKeyChar c = true) (done : List Char) :
    Unicode.insertMark c done = c :: done := by
  have hlt := toNat_lt_of_isKeyChar h
  have hclass : Unicode.combiningClass c = 0 := if_pos (by omega)
  cases done with
  | nil => rfl
  | cons d done => rw [Unicode.insertMark, hclass, if_neg (by omega)]

/-- Key characters are no marks, so none of them moves. -/
theorem canonicalOrder_of_isKeyChar (h : ∀ c ∈ s, isKeyChar c = true) :
    Unicode.canonicalOrder s = s := by
  have hfold : ∀ done,
      s.foldl (fun done c => Unicode.insertMark c done) done = s.reverse ++ done := by
    induction s with
    | nil => exact fun _ => rfl
    | cons c s ih =>
      intro done
      rw [List.foldl_cons, insertMark_of_isKeyChar (h c List.mem_cons_self),
        ih fun d hd => h d (List.mem_cons_of_mem _ hd), List.reverse_cons, List.append_assoc]
      rfl
  rw [Unicode.canonicalOrder, hfold, List.append_nil, List.reverse_reverse]

theorem normalizeChars_of_isKeyChar (h : ∀ c ∈ s, isKeyChar c = true) : normalizeChars s = s := by
  rw [normalizeChars, Unicode.nfkd, decompose_of_isKeyChar h, canonicalOrder_of_isKeyChar h,
    fold_of_isKeyChar h, List.filter_eq_self.2 h]

/-! ### Normalized text -/

theorem isKeyChar_of_mem_normalize {text : String} (h : c ∈ (normalize text).toList) :
    isKeyChar c = true := by
  rw [normalize, String.toList_ofList, normalizeChars, List.mem_filter] at h
  exact h.2

theorem normalize_normalize (text : String) : normalize (normalize text) = normalize text := by
  have h : normalizeChars (normalize text).toList = (normalize text).toList :=
    normalizeChars_of_isKeyChar fun c => isKeyChar_of_mem_normalize
  exact (congrArg String.ofList h).trans String.ofList_toList

theorem sortText_normalize (text : String) : sortText (normalize text) = normalize text := by
  rw [sortText, fold_of_isKeyChar fun c => isKeyChar_of_mem_normalize, String.ofList_toList]

theorem toLower_normalize (text : String) : (normalize text).toLower = normalize text :=
  Text.toLower_of_forall fun _ hc => not_isUpper_of_isKeyChar (isKeyChar_of_mem_normalize hc)

end SymbolIndex.Key
