import SymbolIndex.Json.Basic
import SymbolIndex.Proofs.Distinct

/-!
# Members with distinct names

Where no name occurs twice, the value of a name does not depend on the order of the members, and
reading the members one by one gives them back as they are. Giving names values one by one never
makes a name occur twice.
-/

namespace SymbolIndex.Json.Members

def names (m : Members) : List String := m.map (·.1)

theorem get?_of_mem {m : Members} (hn : m.names.Nodup) {name : String} {v : Json}
    (h : (name, v) ∈ m) : m.get? name = some v := by
  rw [get?, find?_of_nodup hn h, Option.map_some]

theorem put_of_not_mem {m : Members} {name : String} (v : Json) (h : name ∉ m.names) :
    m.put name v = m ++ [(name, v)] := by
  induction m with
  | nil => rfl
  | cons e rest ih =>
    obtain ⟨n, w⟩ := e
    simp only [names, List.map_cons, List.mem_cons, not_or] at h
    rw [put, if_neg (Ne.symm h.1), ih h.2, List.cons_append]

theorem foldl_put_of_nodup (m l : Members) (h : (m ++ l).names.Nodup) :
    l.foldl (fun m e => m.put e.1 e.2) m = m ++ l := by
  induction l generalizing m with
  | nil => simp
  | cons e rest ih =>
    have hne : e.1 ∉ m.names := by
      intro hm
      simp only [names, List.map_append, List.map_cons, List.nodup_append] at h
      exact h.2.2 _ hm _ (by simp) rfl
    rw [List.foldl_cons, put_of_not_mem _ hne, ih _ (by simpa using h), List.append_assoc]
    rfl

theorem ofList_of_nodup {l : Members} (h : l.names.Nodup) : ofList l = l := by
  rw [ofList, foldl_put_of_nodup [] l h, List.nil_append]

theorem get?_eq_none {m : Members} {name : String} : m.get? name = none ↔ name ∉ m.names := by
  rw [get?, Option.map_eq_none_iff, List.find?_eq_none, names, List.mem_map]
  simp only [beq_iff_eq, not_exists, not_and]

theorem get?_eq_some {m : Members} (hn : m.names.Nodup) {name : String} {v : Json} :
    m.get? name = some v ↔ (name, v) ∈ m := by
  refine ⟨fun h => ?_, get?_of_mem hn⟩
  obtain ⟨e, he, rfl⟩ := Option.map_eq_some_iff.1 h
  have hname : e.1 = name := by simpa using List.find?_some he
  exact hname ▸ List.mem_of_find?_eq_some he

/-! ### Putting -/

section
variable {m l : Members} {name : String} {v : Json} {e : String × Json}

theorem mem_put (h : e ∈ m.put name v) : e = (name, v) ∨ e ∈ m := by
  induction m with
  | nil => exact .inl (List.mem_singleton.1 h)
  | cons first rest ih =>
    rw [put] at h
    split at h
    · subst name
      exact (List.mem_cons.1 h).imp_right (List.mem_cons_of_mem _)
    · rcases List.mem_cons.1 h with rfl | h
      · exact .inr List.mem_cons_self
      · exact (ih h).imp_right (List.mem_cons_of_mem _)

theorem names_put_of_mem (h : name ∈ m.names) (v : Json) : (m.put name v).names = m.names := by
  induction m with
  | nil => cases h
  | cons first rest ih =>
    rw [put]
    split
    · rfl
    · rename_i hne
      have hrest : name ∈ names rest := (List.mem_cons.1 h).resolve_left (Ne.symm hne)
      exact congrArg (first.1 :: ·) (ih hrest)

theorem nodup_put (hn : m.names.Nodup) (name : String) (v : Json) :
    (m.put name v).names.Nodup := by
  by_cases h : name ∈ m.names
  · rwa [names_put_of_mem h]
  · rw [put_of_not_mem v h, names, List.map_append]
    refine List.nodup_append.2 ⟨hn, List.pairwise_singleton _ _, fun a ha b hb heq => h ?_⟩
    obtain rfl := List.mem_singleton.1 hb
    exact heq ▸ ha

theorem nodup_foldl_put (hn : m.names.Nodup) (l : Members) :
    (l.foldl (fun m e => m.put e.1 e.2) m).names.Nodup := by
  induction l generalizing m with
  | nil => exact hn
  | cons first rest ih => exact ih (nodup_put hn _ _)

theorem mem_foldl_put (h : e ∈ l.foldl (fun m e => m.put e.1 e.2) m) : e ∈ m ∨ e ∈ l := by
  induction l generalizing m with
  | nil => exact .inl h
  | cons first rest ih =>
    rcases ih h with h | h
    · rcases mem_put h with rfl | h
      · exact .inr List.mem_cons_self
      · exact .inl h
    · exact .inr (List.mem_cons_of_mem _ h)

theorem nodup_ofList (l : Members) : (ofList l).names.Nodup := nodup_foldl_put (m := []) List.nodup_nil l

theorem mem_of_mem_ofList (h : e ∈ ofList l) : e ∈ l := by
  rcases mem_foldl_put h with h | h
  · cases h
  · exact h

/-- Members that are put into others take precedence over them. -/
theorem get?_foldl_put (hn : l.names.Nodup) (m : Members) (name : String) :
    (l.foldl (fun m e => m.put e.1 e.2) m).get? name = (l.get? name).or (m.get? name) := by
  induction l generalizing m with
  | nil => rfl
  | cons first rest ih =>
    obtain ⟨hnew, hrest⟩ := List.nodup_cons.1 hn
    rw [List.foldl_cons, ih hrest]
    by_cases h : name = first.1
    · subst name
      have hnone : get? rest first.1 = none := get?_eq_none.2 hnew
      rw [hnone, get?_put_self, Option.none_or, get?_of_mem hn List.mem_cons_self, Option.some_or]
    · have hcons : get? (first :: rest) name = get? rest name := by
        rw [get?, List.find?_cons_of_neg (by simpa using Ne.symm h), get?]
      rw [get?_put_of_ne m _ h, hcons]

end

end SymbolIndex.Json.Members
