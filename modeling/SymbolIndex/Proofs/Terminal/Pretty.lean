import SymbolIndex.Proofs.Json.Decoded
import SymbolIndex.Proofs.Json.Indented
import SymbolIndex.Proofs.Shard.Codec
import SymbolIndex.Terminal.Pretty

/-!
# Indented documents

Indenting a text keeps the value of it up to the order of the members, and an indented text is left
as it is (`exists_prettyDocument`), because the members of a value are written in the order of their
names whatever their own order is (`Decoded.pretty_sorted`). So a shard is read from the indented
text as it was from the text (`prettyDocument_keeps_shard`).
-/

namespace SymbolIndex.Json

variable {v : Json}

/-- The members of a value are written in one order. -/
theorem Decoded.pretty_sorted (h : Decoded v) (ascii : Bool) (level : Nat) :
    prettyAt ascii level (sorted v) = prettyAt ascii level v := by
  induction h generalizing level with
  | null => rfl
  | bool b => rfl
  | int _ => rfl
  | float _ => rfl
  | str s => rfl
  | @arr vs _ ih =>
    rw [sorted, prettyAt, prettyAt, sortedItems_eq, prettyItems_eq, prettyItems_eq, List.map_map]
    exact congrArg _ (List.map_congr_left fun v hv => ih v hv (level + 1))
  | @obj ms hn _ ih =>
    rw [sorted_obj hn, prettyAt, prettyAt, prettyMembers_texts, prettyMembers_texts,
      sortByName_sortByName, sortedMembers_sort, List.map_map]
    refine congrArg _ (List.map_congr_left fun m hm => ?_)
    rw [Function.comp_apply, ih m ((sortByName_perm ms).mem_iff.1 hm)]

end SymbolIndex.Json

namespace SymbolIndex.Terminal

open Json

variable {text : String} {v : Json} {s : Shard}

theorem prettyDocument_eq (h : Json.read text.toList = .ok v) :
    prettyDocument text = .ok (String.ofList (pretty false v ++ ['\n'])) := by
  rw [prettyDocument, h]
  rfl

/-- Every text that can be read has an indented text, with the value in the order of its members,
and indenting that changes nothing. -/
theorem exists_prettyDocument (h : Json.read text.toList = .ok v) :
    ∃ shown, prettyDocument text = .ok shown ∧ Json.read shown.toList = .ok (sorted v) ∧
      prettyDocument shown = .ok shown := by
  have hd := decoded_of_read h
  have hread : Json.read (String.ofList (pretty false v ++ ['\n'])).toList = .ok (sorted v) := by
    rw [String.toList_ofList]
    exact read_pretty hd.writable false
  refine ⟨_, prettyDocument_eq h, hread, ?_⟩
  rw [prettyDocument_eq hread, pretty, hd.pretty_sorted, pretty]

/-- What a shard is read from can be indented. From the indented text the same shard is read, and
more than that, the same value but for the order of members, and it is left as it is when it is
indented again. -/
theorem prettyDocument_keeps_shard (h : Shard.read text = .ok s) :
    ∃ shown, prettyDocument text = .ok shown ∧ Shard.read shown = .ok s ∧
      prettyDocument shown = .ok shown ∧
      ∃ v v', Json.read text.toList = .ok v ∧ Json.read shown.toList = .ok v' ∧ Alike v v' := by
  obtain ⟨hstates, hw⟩ := Shard.read_eq_ok.1 h
  have ⟨members, hm, _⟩ := hstates
  have hv := (Document.read_eq_ok.1 hm).1
  obtain ⟨shown, hshown, hread, hagain⟩ := exists_prettyDocument hv
  exact ⟨shown, hshown, Shard.read_eq_ok.2 ⟨hstates.of_sorted hv hread, hw⟩, hagain, _, _, hv, hread,
    (decoded_of_read hv).alike_sorted⟩

/-- A document on one line with members of no meaning: a name that comes twice, empty brackets, a
negative zero, and escapes. -/
def layeredDocument : String :=
  "\x7b\"version\":1,\"shard\":\"b\",\"shard\":\"a\",\"x\":\x7b\"b\":[],\"a\":\x7b\x7d," ++
    "\"b\":[-0,\x7b\"\\u00e9\\n\":-12\x7d,[[null]]]\x7d,\"format\":\"docsearch-shard\"," ++
    "\"entries\":[[\"k\",\"\",[[\"\",\"\\ud83d\\ude00\"]]]]\x7d"

def layeredShard : Shard := ⟨"a", [⟨"k", "", [⟨"", "😀"⟩]⟩]⟩

theorem prettyDocument_keeps_shard_layered :
    Shard.read layeredDocument = .ok layeredShard ∧
      ∃ shown, prettyDocument layeredDocument = .ok shown ∧ Shard.read shown = .ok layeredShard ∧
        prettyDocument shown = .ok shown := by
  have hread : Shard.read layeredDocument = .ok layeredShard :=
    toOption_eq_some.1 (by decide +kernel)
  obtain ⟨shown, hshown, hshard, hagain, -⟩ := prettyDocument_keeps_shard hread
  exact ⟨hread, shown, hshown, hshard, hagain⟩

end SymbolIndex.Terminal
