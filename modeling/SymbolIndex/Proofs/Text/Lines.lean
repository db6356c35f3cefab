import SymbolIndex.Text.Lines

/-!
# Text without carriage returns

Reading a text changes its line ends and nothing else, so a text without carriage returns is read
as it is.
-/

namespace SymbolIndex.Text.Lines

variable {s : List Char} {c : Char}

theorem unify_of_not_mem (h : '\r' ∉ s) : unify s = s := by
  induction s with
  | nil => rfl
  | cons c s ih =>
    have hc : c ≠ '\r' := fun hc => h (hc ▸ List.mem_cons_self)
    rw [unify, if_neg hc, ih fun hs => h (List.mem_cons_of_mem _ hs)]
    exact fun _ he _ => hc he

theorem mem_of_mem_intercalate {sep : List Char} {parts : List (List Char)}
    (h : c ∈ sep.intercalate parts) : c ∈ sep ∨ ∃ part ∈ parts, c ∈ part := by
  induction parts with
  | nil => exact absurd h List.not_mem_nil
  | cons part rest ih =>
    cases rest with
    | nil => exact .inr ⟨part, List.mem_cons_self, by simpa using h⟩
    | cons next rest =>
      rw [List.intercalate_cons_cons, List.mem_append, List.mem_append] at h
      rcases h with (h | h) | h
      · exact .inr ⟨part, List.mem_cons_self, h⟩
      · exact .inl h
      · exact (ih h).imp_right fun ⟨t, ht, hc⟩ => ⟨t, List.mem_cons_of_mem _ ht, hc⟩

end SymbolIndex.Text.Lines
