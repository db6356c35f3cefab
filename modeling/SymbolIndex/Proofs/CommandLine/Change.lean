import SymbolIndex.Proofs.CommandLine.Run

/-!
# Changing a setting

A change is accepted exactly if the loader would give the new value back. Then the settings in
force are those before but for the changed one, and for the shard count if the scheme has none any
more, and the other members of the file say what they said; a change that is rejected leaves the
disk as it is (`change_exact_and_persistent`).
-/

namespace SymbolIndex.CommandLine

open File Settings SymbolIndex.Effect World

variable {path : Path} {d d' : Disk} {arguments : List String} {isVerbose : Bool} {w w' : World}
  {name given : String} {key : Settings.Key} {value : Settings.Value}

/-! ### The arguments -/

/-- What does not begin with a dash is a word. -/
theorem look_of_word {t : String} (h : t.toList.head? ≠ some '-') (g : Grammar) :
    g.look t = .ok .word := by
  unfold Grammar.look
  split
  · rename_i heq
    rw [heq] at h
    exact absurd rfl h
  · rename_i heq
    rw [heq] at h
    exact absurd rfl h
  · rfl

theorem items_of_words {texts : List String} (h : ∀ t ∈ texts, t.toList.head? ≠ some '-')
    (g : Grammar) : g.items texts = .ok (texts.map (⟨·, .word⟩)) := by
  induction texts with
  | nil => rfl
  | cons t texts ih =>
    obtain ⟨ht, hrest⟩ := List.forall_mem_cons.1 h
    have hne : t ≠ "--" := by
      rintro rfl
      exact absurd ht (by decide)
    rw [Grammar.items, if_neg hne, look_of_word ht, ih hrest]
    rfl

theorem scan_outer (name given : String) : outerGrammar.scan outerGrammar.operands
    [⟨"config", .word⟩, ⟨name, .word⟩, ⟨given, .word⟩] ⟨[], []⟩ =
      .ok ([], ⟨[("command", [.text "config", .text name, .text given])], []⟩) := by
  rw [Grammar.scan.eq_def]
  dsimp only
  rw [if_neg (by decide)]
  have hfill : fill outerGrammar.operands
    [⟨"config", .word⟩, ⟨name, .word⟩, ⟨given, .word⟩] ⟨[], []⟩ =
      ([], [], ⟨[("command", [.text "config", .text name, .text given])], []⟩) := rfl
  rw [hfill]
  dsimp only
  rw [if_pos (by simp), Grammar.scan.eq_def]

theorem values_optional {t : String} (h : t ≠ "--") (operand : String) :
    (Operand.mk operand .optional).values [t] = [.text t] := by
  show ([t].erase "--").map Value.text = _
  rw [List.erase_of_not_mem (by simpa using Ne.symm h)]
  rfl

theorem fill_inner (hn : name ≠ "--") (hg : given ≠ "--") :
    fill Verb.settings.grammar.operands [⟨name, .word⟩, ⟨given, .word⟩] ⟨[], []⟩ =
      ([], [], ⟨[("key", [.text name]), ("value", [.text given])], []⟩) := by
  have hoperands : Verb.settings.grammar.operands =
      [⟨"key", .optional⟩, ⟨"value", .optional⟩] := rfl
  have hkey : (Operand.mk "key" .optional).take? [⟨name, .word⟩, ⟨given, .word⟩] = some 1 := rfl
  have hvalue : (Operand.mk "value" .optional).take? [⟨given, .word⟩] = some 1 := rfl
  simp only [hoperands, fill, hkey, hvalue, List.take_succ_cons, List.take_zero, List.drop_succ_cons,
    List.drop_zero, List.map_cons, List.map_nil, values_optional hn, values_optional hg]
  rfl

theorem scan_inner (hn : name ≠ "--") (hg : given ≠ "--") :
    Verb.settings.grammar.scan Verb.settings.grammar.operands
    [⟨name, .word⟩, ⟨given, .word⟩] ⟨[], []⟩ =
      .ok ([], ⟨[("key", [.text name]), ("value", [.text given])], []⟩) := by
  rw [Grammar.scan.eq_def]
  dsimp only
  rw [if_neg (by simp [Item.isSwitch, Item.isWord]), fill_inner hn hg]
  dsimp only
  rw [if_pos (by simp), Grammar.scan.eq_def]

theorem ne_separator {t : String} (h : t.toList.head? ≠ some '-') : t ≠ "--" := by
  rintro rfl
  exact absurd h (by decide)

/-- A name and a text that do not begin with a dash are read as a change. -/
theorem read_config (hn : name.toList.head? ≠ some '-') (hg : given.toList.head? ≠ some '-') :
    Invocation.read ["config", name, given] = .ok ⟨false, .settings (.change name given)⟩ := by
  have houter : outerGrammar.read ["config", name, given] =
      .ok ⟨[("command", [.text "config", .text name, .text given])], []⟩ := by
    have hitems : outerGrammar.items ["config", name, given] =
        .ok [⟨"config", .word⟩, ⟨name, .word⟩, ⟨given, .word⟩] :=
      items_of_words (by simp [hn, hg]) _
    rw [Grammar.read, hitems]
    exact bind_eq_ok.2 ⟨_, rfl, bind_eq_ok.2 ⟨_, scan_outer name given, rfl⟩⟩
  have hinner : Verb.settings.grammar.read [name, given] =
      .ok ⟨[("key", [.text name]), ("value", [.text given])], []⟩ := by
    have hitems : Verb.settings.grammar.items [name, given] =
        .ok [⟨name, .word⟩, ⟨given, .word⟩] := items_of_words (by simp [hn, hg]) _
    rw [Grammar.read, hitems]
    exact bind_eq_ok.2 ⟨_, rfl, bind_eq_ok.2 ⟨_, scan_inner (ne_separator hn) (ne_separator hg), rfl⟩⟩
  have hverb : Verb.ofName? "config" = some .settings := by decide
  have hargs : SettingsRequest.ofArguments ⟨[("key", [.text name]), ("value", [.text given])], []⟩ =
      .change name given := rfl
  refine bind_eq_ok.2 ⟨_, mapError_eq_ok.2 houter, ?_⟩
  have htexts : (Arguments.mk [("command", [.text "config", .text name, .text given])] []).texts
      "command" = ["config", name, given] := rfl
  rw [htexts]
  dsimp only
  rw [hverb]
  dsimp only
  refine bind_eq_ok.2 ⟨_, mapError_eq_ok.2 hinner, ?_⟩
  rw [List.append_nil]
  dsimp only
  rw [Command.ofArguments, hargs]
  rfl

/-! ### The command -/

theorem fails_runSettings_of_update {e : UpdateError}
    (h : (inForce path w.disk).update name given = .error e) :
    Fails (runSettings path (inForce path w.disk) (.change name given)) w (.update e) w :=
  fails_bind.2 (.inl (fails_ofExcept.2 ⟨e, h, rfl, rfl⟩))

theorem fails_runSettings_of_save {updated : Settings} {e : File.Error}
    (h : (inForce path w.disk).update name given = .ok updated)
    (hsave : Fails (save path updated) w e w') :
    Fails (runSettings path (inForce path w.disk) (.change name given)) w (.file e) w' :=
  (fails_bind_of_gives (gives_ofExcept.2 ⟨h, rfl⟩)).2
    (fails_bind.2 (.inl (fails_adapt.2 ⟨e, hsave, rfl⟩)))

/-- What is printed for a setting that has a value now. -/
def changeText (name : String) (value : Settings.Value) : String :=
  name ++ " = " ++ jsonText value.toJson ++ "\n"

theorem exists_gives_runSettings (h : Accepted (membersAt path w.disk) name given key value)
    (hsave : Gives (save path (changed (membersAt path w.disk) key value)) w ⟨⟩ w') :
    ∃ v, Gives (runSettings path (inForce path w.disk) (.change name given)) w
      (.ofText (changeText name value)) v ∧ v.disk = w'.disk := by
  have hself : (changed (membersAt path w.disk) key value).get key = value :=
    (get_changed_self _ _ _).trans h.readBack
  have hupdate : (inForce path w.disk).update name given =
      .ok (changed (membersAt path w.disk) key value) := update_eq_ok.2 ⟨key, value, h, rfl⟩
  refine ⟨_, gives_bind.2 ⟨_, w, gives_ofExcept.2 ⟨hupdate, rfl⟩, gives_bind.2 ⟨⟨⟩, w',
    gives_adapt.2 hsave, gives_bind.2 ⟨⟨⟩, _, gives_modify.2 rfl, gives_pure.2 ⟨?_, rfl⟩⟩⟩⟩,
    rfl⟩
  rw [h.known, Option.map_some, hself]
  rfl

/-! ### The program -/

/-- The settings in force on one disk are those on another but for a changed one, and the other
members of the file say the same. -/
structure Changes (path : Path) (key : Settings.Key) (value : Settings.Value) (d d' : Disk) : Prop where
  self : (inForce path d').get key = value
  others : ∀ k ≠ key, (inForce path d').get k =
    if key = .scheme ∧ value = .text "alpha" ∧ k = .shardCount then .none
    else (inForce path d).get k
  unrelated : ∀ other, Settings.Key.ofName? other = none →
    Option.Rel Json.Alike ((membersAt path d).get? other) ((membersAt path d').get? other)

/-- A file can be written at a path once the directories above it are made. -/
def CanSave (d : Disk) (path : Path) : Prop :=
  ∃ d', Gives (File.Effect.makeDirectories path.parent) d ⟨⟩ d' ∧ Takes d' path

theorem changes_of_gives_save (h : Accepted (membersAt path w.disk) name given key value)
    (hsave : Gives (save path (changed (membersAt path w.disk) key value)) w ⟨⟩ w') :
    Changes path key value w.disk w'.disk := by
  have hforce := h.inForce_saved hsave
  refine ⟨?_, fun k hk => ?_, fun other ho => h.alike_saved hsave ho⟩
  · rw [hforce, get_changed_self, h.readBack]
  · rw [hforce, h.get_changed_of_ne hk]
    rfl

section
variable (hread : Invocation.read arguments = .ok ⟨isVerbose, .settings (.change name given)⟩)
include hread

theorem run_of_rejected (h : Rejected (membersAt path d) name given) :
    ∃ e, run path d arguments = (.failed (.update e), [], d) := by
  obtain ⟨e, he⟩ := exists_update_error.2 h
  have hfails : Fails (runSettings path (inForce path d) (.change name given)) ⟨d, []⟩
    (.update e) ⟨d, []⟩ := fails_runSettings_of_update (w := ⟨d, []⟩) he
  exact ⟨e, run_of_fails hread hfails⟩

theorem run_of_accepted (h : Accepted (membersAt path d) name given key value) :
    (∃ log d', run path d arguments = (.done (.ofText (changeText name value)), log, d') ∧
      Changes path key value d d') ∨
    ∃ e log d', run path d arguments = (.failed (.file e), log, d') ∧ ¬ CanSave d path := by
  cases hsave : outcome (save path (changed (membersAt path d) key value)) ⟨d, []⟩ with
  | mk result w =>
    cases result with
    | ok u =>
      obtain ⟨v, hgives, hdisk⟩ := exists_gives_runSettings (w := ⟨d, []⟩) h hsave
      refine .inl ⟨_, v.disk, run_of_gives hread hgives, ?_⟩
      rw [hdisk]
      exact changes_of_gives_save (w := ⟨d, []⟩) h hsave
    | error e =>
      have hupdate : (inForce path d).update name given =
          .ok (changed (membersAt path d) key value) := update_eq_ok.2 ⟨key, value, h, rfl⟩
      have hfails : Fails (runSettings path (inForce path d) (.change name given)) ⟨d, []⟩
        (.file e) w := fails_runSettings_of_save (w := ⟨d, []⟩) hupdate hsave
      refine .inr ⟨e, _, w.disk, run_of_fails hread hfails, ?_⟩
      rintro ⟨d', hdirs, htakes⟩
      obtain ⟨w', hgives⟩ := exists_gives_save (w := ⟨d, []⟩) hdirs htakes
        (changed (membersAt path d) key value)
      exact not_fails_of_gives hgives hsave

end

/-- A change is accepted if the loader would give the value back and the file can be written, and
then it is exact; it is rejected exactly if the loader would not, and then nothing is changed. -/
theorem change_exact_and_persistent
    (hread : Invocation.read arguments = .ok ⟨isVerbose, .settings (.change name given)⟩) :
    (∀ output log d', run path d arguments = (.done output, log, d') →
      ∃ key value, Settings.Key.ofName? name = some key ∧
        Settings.parseValue key given = .ok value ∧ output = .ofText (changeText name value) ∧
        Changes path key value d d') ∧
    ((∃ e log d', run path d arguments = (.failed (.update e), log, d')) ↔
      Rejected (membersAt path d) name given) ∧
    (∀ e log d', run path d arguments = (.failed (.update e), log, d') → d' = d) ∧
    (¬ Rejected (membersAt path d) name given → CanSave d path →
      ∃ output log d', run path d arguments = (.done output, log, d')) := by
  by_cases hrejected : Rejected (membersAt path d) name given
  · obtain ⟨e, hrun⟩ := run_of_rejected hread hrejected
    rw [hrun]
    refine ⟨nofun, ⟨fun _ => hrejected, fun _ => ⟨e, _, _, rfl⟩⟩, fun _ _ _ heq => ?_,
      fun hnot => absurd hrejected hnot⟩
    exact (congrArg (·.2.2) heq).symm
  · obtain ⟨key, value, h⟩ := exists_accepted hrejected
    rcases run_of_accepted hread h with ⟨log, d', hrun, hchanges⟩ | ⟨e, log, d', hrun, hsave⟩
    · rw [hrun]
      refine ⟨fun output _ _ heq => ?_, ⟨nofun, fun hr => absurd hr hrejected⟩, nofun,
        fun _ _ => ⟨_, _, _, rfl⟩⟩
      cases heq
      exact ⟨key, value, h.known, h.parsed, rfl, hchanges⟩
    · rw [hrun]
      exact ⟨nofun, ⟨nofun, fun hr => absurd hr hrejected⟩, nofun, fun _ hcan => absurd hcan hsave⟩

/-! ### A file with other members -/

/-- Settings of which one is invalid, and a member that is none. -/
def changeMembers : Json.Members :=
  [("load_workers", .str "many"), ("note", .arr [.bool true, .str "kept"]),
    ("scheme", .str "hashed"), ("shard_count", .int 8)]

def changePath : Path := .ofString "config.json"

def changeDisk : Disk where
  tree := ⟨[(["config.json"], .file (encodeText (fileText changeMembers)))]⟩
  cwd := []

theorem holds_changeDisk :
    Holds changeDisk changePath (encodeText (fileText changeMembers)) :=
  ⟨by decide +kernel, ["config.json"], rfl, rfl⟩

theorem membersAt_changeDisk : membersAt changePath changeDisk = changeMembers := by
  have hdecoded : Json.Decoded (.obj changeMembers) := by
    refine .obj (by decide) fun m hm => ?_
    simp only [changeMembers, List.mem_cons, List.not_mem_nil, or_false] at hm
    rcases hm with rfl | rfl | rfl | rfl
    · exact .str _
    · exact .arr (List.forall_mem_cons.2 ⟨.bool _, List.forall_mem_singleton.2 (.str _)⟩)
    · exact .str _
    · exact .int (by decide)
  have hsorted : Json.sortedMembers changeMembers = changeMembers := rfl
  rw [membersAt_of_holds holds_changeDisk, membersOf_fileText hdecoded, hsorted]
  exact List.mergeSort_of_pairwise (by decide)

theorem canSave_changeDisk : CanSave changeDisk changePath :=
  ⟨changeDisk, rfl, holds_changeDisk.1, ["config.json"], rfl, nofun, rfl⟩

theorem change_exact_and_persistent_alpha : ∃ log d',
    run changePath changeDisk ["config", "scheme", "alpha"] =
      (.done (.ofText (changeText "scheme" (.text "alpha"))), log, d') ∧
    (inForce changePath changeDisk).get .shardCount = .number 8 ∧
    (inForce changePath d').get .shardCount = .none ∧
    (inForce changePath d').get .loadWorkers = .number 4 ∧
    Option.Rel Json.Alike (some (.arr [.bool true, .str "kept"]))
      ((membersAt changePath d').get? "note") := by
  have hread : Invocation.read ["config", "scheme", "alpha"] =
      .ok ⟨false, .settings (.change "scheme" "alpha")⟩ := read_config (by decide) (by decide)
  have haccepted : Accepted (membersAt changePath changeDisk) "scheme" "alpha" .scheme
      (.text "alpha") := by
    rw [membersAt_changeDisk]
    exact ⟨rfl, toOption_eq_some.1 (by decide +kernel), by decide +kernel⟩
  have hforce : ∀ k, (inForce changePath changeDisk).get k = (ofMembers changeMembers).get k := by
    intro k
    rw [inForce, membersAt_changeDisk]
  obtain ⟨hdone, -, -, hcan⟩ := change_exact_and_persistent hread
  obtain ⟨output, log, d', hrun⟩ := hcan haccepted.not_rejected canSave_changeDisk
  obtain ⟨key, value, hk, hv, rfl, hchanges⟩ := hdone output log d' hrun
  obtain rfl := Option.some.inj (haccepted.known.symm.trans hk)
  obtain rfl := Except.ok.inj (haccepted.parsed.symm.trans hv)
  refine ⟨log, d', hrun, by rw [hforce]; decide +kernel, ?_, ?_, ?_⟩
  · rw [hchanges.others .shardCount (by decide)]
    rfl
  · rw [hchanges.others .loadWorkers (by decide), hforce]
    decide +kernel
  · have hnote := hchanges.unrelated "note" rfl
    rwa [membersAt_changeDisk] at hnote

end SymbolIndex.CommandLine
