import SymbolIndex.Proofs.Build.Layout
import SymbolIndex.Proofs.Manifest.Codec
import SymbolIndex.Proofs.Session.Candidates

/-!
# Manifests and partitions agree

The options that the reader of manifests accepts are the ones that a partition has, so a session
opens over every manifest that was read, whichever mode it is opened in (`Session.ofOptions_eq_ok`).
Over the manifest of a build it looks for a key in the shard where the build has put it
(`codec_agrees_with_partition`).
-/

namespace SymbolIndex

/-! ### Opening sessions -/

theorem MatchMode.ofOption_eq_ok {given : Json} {mode : MatchMode} :
    MatchMode.ofOption given = .ok mode ↔ given = .str mode.name := by
  constructor
  · intro h
    unfold ofOption at h
    split at h
    · rename_i name
      unfold ofName? at h
      split at h
      · cases h
        exact congrArg Json.str ‹_›
      · split at h
        · cases h
          exact congrArg Json.str ‹_›
        · cases h
    · cases h
  · rintro rfl
    cases mode <;> rfl

section
variable {source : Source} {given : Json} {limit : Option Int} {workers : Int} {hasListener : Bool}
  {s : Session}

/-- A session opens in the modes that there are, and nothing else can keep it from opening. -/
theorem Session.ofOptions_eq_ok : Session.ofOptions source given limit workers hasListener = .ok s ↔
    ∃ mode : MatchMode, given = .str mode.name ∧
      s = Session.start ⟨source, mode, limit, workers, hasListener⟩ := by
  unfold Session.ofOptions
  simp only [Partition.ofOptions_eq, bind_eq_ok, mapError_eq_ok, MatchMode.ofOption_eq_ok]
  constructor
  · rintro ⟨mode, rfl, p, hp, h⟩
    cases hp
    exact ⟨mode, rfl, (Except.ok.inj h).symm⟩
  · rintro ⟨mode, rfl, rfl⟩
    exact ⟨mode, rfl, _, rfl, rfl⟩

end

namespace Manifest

section
variable {isStrict : Bool} {p : Partition} {records : List Record} {b : Build} {shard : Shard}
  {e : Entry} (hb : Build.run isStrict p records = .ok b)
include hb

theorem partition_of_build : b.manifest.partition = p := by
  obtain rfl := Build.eq_lenient_of_run hb
  exact (Build.laidOut_lenient p records).partition

theorem shardOf_of_build (hshard : shard ∈ b.shards) (he : e ∈ shard.entries) :
    b.manifest.partition.shardOf e.key = .ok shard.id := by
  rw [partition_of_build hb]
  obtain rfl := Build.eq_lenient_of_run hb
  exact (Build.laidOut_lenient p records).keys_placed shard hshard e he

/-- A session over the manifest of a build looks for a key where the build has put it. -/
theorem targets_of_build {setup : Setup} (hm : setup.source.manifest = b.manifest)
    (hshard : shard ∈ b.shards) (he : e ∈ shard.entries) {query : String}
    (hquery : Match.Matches setup.mode query e.key) :
    shard.id ∈ (Session.start setup).targets query := by
  have hlisted : shard.id ∈ (Session.start setup).manifest.shardIds := by
    show shard.id ∈ setup.source.manifest.shardIds
    rw [hm, Build.Built.shardIds ⟨isStrict, p, records, hb⟩]
    exact List.mem_map_of_mem hshard
  have hplaced : (Session.start setup).manifest.partition.shardOf e.key = .ok shard.id := by
    show setup.source.manifest.partition.shardOf e.key = .ok shard.id
    rw [hm]
    exact shardOf_of_build hb hshard he
  exact (Session.sound_start setup).mem_targets_of_placed hlisted hquery fun _ => hplaced

end

/-- A manifest is read back from its document, and a text is accepted if what it states is well
formed: the options of the alphabetic partition or those of a hashed one. What was accepted can be
printed again. From well-formed options the partition is made that has them. So a session opens over every manifest that was read, in each
of the two modes, and over the manifest of a build it has the partition of the build and looks for a
key where the build has put it. -/
theorem codec_agrees_with_partition :
    (∀ s : Stated, s.WellFormed → s.Printable → ∃ m, read s.render = .ok m ∧ m.stated = s) ∧
    (∀ text m, read text = .ok m →
      m.stated.WellFormed ∧ m.stated.Printable ∧ States text m.stated) ∧
    (∀ text s, States text s → ((∃ m, read text = .ok m) ↔ s.WellFormed)) ∧
    (∀ s : Stated, s.WellFormed → ∃ p, Partition.ofOptions (.str s.scheme) s.shardCount = .ok p ∧
      p.scheme.name = s.scheme ∧ p.shardCount?.map Int.ofNat = s.shardCount) ∧
    (∀ text m, read text = .ok m → ∀ (source : Source), source.manifest = m →
      ∀ (mode : MatchMode) limit workers hasListener,
        Session.ofOptions source (.str mode.name) limit workers hasListener =
          .ok (Session.start ⟨source, mode, limit, workers, hasListener⟩)) ∧
    ∀ isStrict p records b, Build.run isStrict p records = .ok b →
      ∀ (source : Source), source.manifest = b.manifest →
      ∀ given limit workers hasListener s,
        Session.ofOptions source given limit workers hasListener = .ok s →
        s.manifest.partition = p ∧ ∀ shard ∈ b.shards, ∀ e ∈ shard.entries,
          s.manifest.partition.shardOf e.key = .ok shard.id ∧
          ∀ query, Match.Matches s.setup.mode query e.key → shard.id ∈ s.targets query := by
  refine ⟨?_, ?_, ?_, ?_, ?_, ?_⟩
  · intro s hs hprintable
    obtain ⟨m, rfl⟩ := exists_stated hs
    exact ⟨m, read_render (printable_stated.1 hprintable), rfl⟩
  · intro text m h
    exact ⟨m.wellFormed_stated, printable_stated.2 (writable_of_read h), read_eq_ok.1 h⟩
  · intro text s hs
    constructor
    · rintro ⟨m, hm⟩
      exact hs.unique (read_eq_ok.1 hm) ▸ m.wellFormed_stated
    · intro h
      obtain ⟨m, rfl⟩ := exists_stated h
      exact ⟨m, read_eq_ok.2 hs⟩
  · exact fun s hs => Partition.exists_ofOptions hs
  · exact fun _ _ _ source _ mode _ _ _ => Session.ofOptions_eq_ok.2 ⟨mode, rfl, rfl⟩
  · intro isStrict p records b hb source hsource given limit workers hasListener s hs
    obtain ⟨mode, -, rfl⟩ := Session.ofOptions_eq_ok.1 hs
    have hmanifest : (Session.start ⟨source, mode, limit, workers, hasListener⟩).manifest =
        b.manifest := hsource
    rw [hmanifest]
    refine ⟨partition_of_build hb, fun shard hshard e he => ⟨?_, fun query hquery => ?_⟩⟩
    · exact shardOf_of_build hb hshard he
    · exact targets_of_build hb hsource hshard he hquery

/-- Three hashed shards, and rows that no build lists. -/
def hashedStated : Stated := ⟨"hashed", some 3, [⟨"h0\"", -1⟩, ⟨"", 0⟩]⟩

def fooRecords : List Record := [.ofText "" "Foo" [⟨"a.html", "N"⟩]]

theorem codec_agrees_with_partition_hashed :
    (∃ m, read hashedStated.render = .ok m ∧ m.stated = hashedStated ∧
      Session.ofOptions (.memory [] m) (.str "prefix") none 4 false =
        .ok (Session.start ⟨.memory [] m, .start, none, 4, false⟩)) ∧
    (∃ p, Partition.ofOptions (.str "hashed") (some 3) = .ok p ∧ p.shardCount? = some 3) ∧
    ∃ b, Build.run false (.hashed 3 (by decide)) fooRecords = .ok b ∧ ∃ shard ∈ b.shards,
      (∃ e ∈ shard.entries, e.key = "foo") ∧
      shard.id ∈ (Session.start ⟨.memory [] b.manifest, .start, none, 4, false⟩).targets "fo" := by
  obtain ⟨hread, -, hstates, hmade, hopens, hbuilt⟩ := codec_agrees_with_partition
  have hfit : hashedStated.WellFormed := .inr ⟨rfl, 3, by decide, rfl⟩
  have hdigit : ∀ n : Int, n.natAbs < 10 → Short n := fun n hn => by
    rw [Short, Nat.toDigits_of_lt_base hn]
    show 1 ≤ Text.Numeral.maxDigits
    decide
  have hprintable : hashedStated.Printable := by
    refine ⟨?_, List.forall_mem_cons.2 ⟨?_, List.forall_mem_singleton.2 ?_⟩⟩
    · rintro n ⟨⟩
      exact hdigit 3 (by decide)
    · exact hdigit (-1) (by decide)
    · exact hdigit 0 (by decide)
  refine ⟨?_, ?_, ?_⟩
  · obtain ⟨m, hm, hs⟩ := hread hashedStated hfit hprintable
    have hstated : States hashedStated.render m.stated := read_eq_ok.1 hm
    rw [hs] at hstated
    obtain ⟨m', hm'⟩ := (hstates _ _ hstated).2 hfit
    obtain rfl := Except.ok.inj (hm.symm.trans hm')
    exact ⟨m, hm, hs, hopens _ m hm (.memory [] m) rfl .start none 4 false⟩
  · obtain ⟨p, hp, -, hcount⟩ := hmade hashedStated hfit
    obtain ⟨n, hn, h3⟩ := Option.map_eq_some_iff.1 hcount
    obtain rfl : n = 3 := Int.ofNat.inj h3
    exact ⟨p, hp, hn⟩
  · refine ⟨_, rfl, ?_⟩
    have hfoo : ∃ e ∈ (Build.lenient (.hashed 3 (by decide)) fooRecords).entries, e.key = "foo" :=
      Build.exists_entry_iff.2 (by decide +kernel)
    obtain ⟨e, he, hkey⟩ := hfoo
    obtain ⟨shard, hshard, he⟩ := List.mem_flatMap.1 he
    refine ⟨shard, hshard, ⟨e, he, hkey⟩, ?_⟩
    obtain ⟨-, hplaced⟩ := hbuilt false (.hashed 3 (by decide)) fooRecords _ rfl
      (.memory [] _) rfl (.str "prefix") none 4 false _ (Session.ofOptions_eq_ok.2 ⟨.start, rfl, rfl⟩)
    refine (hplaced shard hshard e he).2 "fo" ?_
    show "fo".toList <+: e.key.toList
    rw [hkey]
    decide

end Manifest

end SymbolIndex
