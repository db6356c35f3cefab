import SymbolIndex.CommandLine.Run
import SymbolIndex.Proofs.Store.Rebuild

/-!
# The build command

Reading the inputs leaves the disk alone (`keepsDisk_readInputs`), so a build that succeeded is
the build of the records that were read, written to the disk that was there before
(`exists_of_gives_runBuild`). `Yields` says what one input file gives; the records of several
stand one behind the other (`exists_gives_readInputs`).
-/

namespace SymbolIndex.CommandLine

open File SymbolIndex.Effect World Store

variable {d : Disk} {w w' : World} {p : Path} {s : Settings} {o : BuildOptions} {out : Path}
  {inputs : List Path} {onlySearchData : Bool} {records : List Record} {output : Output}

/-! ### Inputs -/

theorem keepsDisk_ofFile (p : Path) : KeepsDisk (Record.ofFile p) := by
  unfold Record.ofFile
  refine chains_disk.bind (keepsDisk_readText _ p) fun text =>
    chains_disk.bind (keepsDisk_ofExcept _ _) fun v => ?_
  split
  · exact chains_disk.pure _
  · exact chains_disk.throw _

theorem keepsDisk_readInput (onlySearchData : Bool) (p : Path) :
    KeepsDisk (readInput onlySearchData p) := by
  have hread : KeepsDisk
      (if onlySearchData || p.suffix == ".js" then do
        let text ← readText Failure.text p
        ofExcept (.searchData p.toString) (SearchData.read text)
      else (Record.ofFile p).adapt .records) := by
    split
    · exact chains_disk.bind (keepsDisk_readText _ p) fun _ => keepsDisk_ofExcept _ _
    · exact (keepsDisk_ofFile p).adapt
  unfold readInput
  refine chains_disk.bind (always_onDisk (onlyLooks_doesExist p)) fun found => ?_
  cases found with
  | true => exact hread
  | false => exact chains_disk.bind (chains_disk.throw _) fun _ => hread

theorem keepsDisk_readInputs (onlySearchData : Bool) (before : List Record) (inputs : List Path) :
    KeepsDisk (readInputs onlySearchData before inputs) := by
  induction inputs generalizing before with
  | nil => exact chains_disk.pure _
  | cons p rest ih =>
    exact chains_disk.bind (keepsDisk_readInput _ p) fun _ => chains_disk.bind (fun _ => rfl)
      fun _ => ih _

/-- A file of a disk gives these records, whatever is in the log. -/
def Yields (onlySearchData : Bool) (d : Disk) (p : Path) (records : List Record) : Prop :=
  ∀ w : World, w.disk = d → Gives (readInput onlySearchData p) w records w

theorem gives_doesExist_of_holds {content : List UInt8} (h : Holds w.disk p content) :
    Gives (onDisk Failure.file (File.Effect.doesExist p)) w true w := by
  obtain ⟨hnull, l, hl, hc⟩ := h
  have hexist : Gives (onDisk Failure.file (File.Effect.doesExist p)) w
      (w.disk.tree.find? l).isSome w := gives_onDisk_doesExist hnull hl
  rwa [hc] at hexist

/-- A file with a search data file's name. -/
theorem yields_of_searchData {content : List UInt8} {text : String} (hsuffix : p.suffix = ".js")
    (h : Holds d p content) (htext : decodeText content = .ok text)
    (hread : SearchData.read text = .ok records) : Yields onlySearchData d p records := by
  rintro w rfl
  unfold readInput
  refine gives_bind.2 ⟨true, w, gives_doesExist_of_holds h, gives_unless.2 ⟨rfl, ?_⟩⟩
  rw [if_pos (by rw [hsuffix, beq_self_eq_true, Bool.or_true])]
  exact gives_bind.2 ⟨text, w, h.gives_readText_of_decode htext, gives_ofExcept.2 ⟨hread, rfl⟩⟩

/-- A record file. -/
theorem yields_of_records {content : List UInt8} {text : String} {items : List Json}
    (hsuffix : p.suffix ≠ ".js") (h : Holds d p content) (htext : decodeText content = .ok text)
    (hread : Json.read text.toList = .ok (.arr items)) :
    Yields false d p (items.map Record.ofJson) := by
  rintro w rfl
  have hrecords : Gives (Record.ofFile p) w (items.map Record.ofJson) w :=
    gives_bind.2 ⟨text, w, h.gives_readText_of_decode htext,
      gives_bind.2 ⟨.arr items, w, gives_ofExcept.2 ⟨hread, rfl⟩, gives_pure.2 ⟨rfl, rfl⟩⟩⟩
  unfold readInput
  refine gives_bind.2 ⟨true, w, gives_doesExist_of_holds h, gives_unless.2 ⟨rfl, ?_⟩⟩
  rw [if_neg (by rw [Bool.false_or, beq_iff_eq]; exact hsuffix)]
  exact gives_adapt.2 hrecords

theorem exists_gives_readInputs {parts : List (List Record)}
    (h : List.Forall₂ (Yields onlySearchData d) inputs parts) (before : List Record)
    (hd : w.disk = d) :
    ∃ w', Gives (readInputs onlySearchData before inputs) w (before ++ parts.flatten) w' ∧
      w'.disk = d := by
  induction h generalizing w before with
  | nil => exact ⟨w, gives_pure.2 ⟨by simp, rfl⟩, hd⟩
  | @cons p records inputs parts hp _ ih =>
    let line : LogLine := ⟨logger, .debug,
      s!"read {p.toString} ({(before ++ records).length} records so far)"⟩
    obtain ⟨w', hrest, hd'⟩ := ih (w := { w with log := w.log ++ [line] }) (before ++ records) hd
    rw [List.append_assoc, ← List.flatten_cons] at hrest
    exact ⟨w', gives_bind.2 ⟨records, w, hp w hd, gives_bind.2 ⟨⟨⟩, _, gives_modify.2 rfl, hrest⟩⟩,
      hd'⟩

/-! ### Builds -/

theorem exists_gives_note (lines : List LogLine) (w : World) :
    ∃ w', Gives (lines.forM fun l => note (ε := Failure) l.logger l.level l.message) w ⟨⟩ w' ∧
      w'.disk = w.disk := by
  induction lines generalizing w with
  | nil => exact ⟨w, gives_forM_nil.2 rfl, rfl⟩
  | cons l lines ih =>
    obtain ⟨w', h, hd⟩ := ih { w with log := w.log ++ [⟨l.logger, l.level, l.message⟩] }
    exact ⟨w', gives_forM_cons.2 ⟨_, gives_modify.2 rfl, h⟩, hd⟩

/-- A build command that succeeded wrote the build of the records it read. -/
theorem exists_of_gives_runBuild (h : Gives (runBuild s inputs (some out) o) w output w') :
    ∃ records w₁ q b v paths, Gives (readInputs o.onlySearchData [] inputs) w records w₁ ∧
      choosePartition s o = .ok q ∧ Build.run (s.strict && !o.isLenient) q records = .ok b ∧
      v.disk = w.disk ∧ Gives (Store.write b out) v paths w' := by
  obtain ⟨records, w₁, hinputs, h⟩ := gives_bind.1 h
  obtain ⟨q, _, hq, h⟩ := gives_bind.1 h
  obtain ⟨hchosen, rfl⟩ := gives_ofExcept.1 hq
  obtain ⟨b, _, hb, h⟩ := gives_bind.1 h
  obtain ⟨hbuilt, rfl⟩ := gives_ofExcept.1 hb
  obtain ⟨_, w₂, hlog, h⟩ := gives_bind.1 h
  obtain ⟨_, _, hout, h⟩ := gives_bind.1 h
  obtain ⟨rfl, rfl⟩ := gives_pure.1 hout
  obtain ⟨paths, w₃, hwrite, h⟩ := gives_bind.1 h
  obtain ⟨_, rfl⟩ := gives_pure.1 h
  obtain ⟨w₂', hlog', hd⟩ := exists_gives_note (Store.buildLog b) w₁
  obtain ⟨_, rfl⟩ := hlog.unique hlog'
  exact ⟨records, w₁, q, b, w₂, paths, hinputs, hchosen, hbuilt,
    hd.trans ((keepsDisk_readInputs _ _ _).of_gives hinputs), gives_adapt.1 hwrite⟩

/-- The build of the records that the inputs give. -/
theorem exists_gives_write_of_gives_runBuild {parts : List (List Record)} {q : Partition}
    {b : Build}
    (hinputs : List.Forall₂ (Yields o.onlySearchData w.disk) inputs parts)
    (hq : choosePartition s o = .ok q)
    (hb : Build.run (s.strict && !o.isLenient) q parts.flatten = .ok b)
    (h : Gives (runBuild s inputs (some out) o) w output w') :
    ∃ v paths, v.disk = w.disk ∧ Gives (Store.write b out) v paths w' := by
  obtain ⟨records, w₁, q', b', v, paths, hread, hq', hb', hv, hwrite⟩ := exists_of_gives_runBuild h
  obtain ⟨_, hread', _⟩ := exists_gives_readInputs hinputs [] rfl
  obtain ⟨rfl, rfl⟩ := hread'.unique hread
  obtain rfl := Except.ok.inj (hq.symm.trans hq')
  obtain rfl := Except.ok.inj (hb.symm.trans hb')
  exact ⟨v, paths, hv, hwrite⟩

/-- A build command succeeds if its inputs can be read and the index can be written. -/
theorem exists_gives_runBuild {parts : List (List Record)} {q : Partition} {b : Build}
    (hinputs : List.Forall₂ (Yields o.onlySearchData w.disk) inputs parts)
    (hq : choosePartition s o = .ok q)
    (hb : Build.run (s.strict && !o.isLenient) q parts.flatten = .ok b)
    (hwrite : ∀ v : World, v.disk = w.disk → ∃ paths w', Gives (Store.write b out) v paths w') :
    ∃ output w', Gives (runBuild s inputs (some out) o) w output w' := by
  obtain ⟨w₁, hread, hd₁⟩ := exists_gives_readInputs hinputs [] rfl
  obtain ⟨w₂, hlog, hd₂⟩ := exists_gives_note (Store.buildLog b) w₁
  obtain ⟨paths, w', hgives⟩ := hwrite w₂ (hd₂.trans hd₁)
  refine ⟨_, w', gives_bind.2 ⟨_, w₁, hread, gives_bind.2 ⟨q, w₁, gives_ofExcept.2 ⟨hq, rfl⟩,
    gives_bind.2 ⟨b, w₁, gives_ofExcept.2 ⟨hb, rfl⟩, gives_bind.2 ⟨⟨⟩, w₂, hlog,
      gives_bind.2 ⟨out, w₂, gives_pure.2 ⟨rfl, rfl⟩, gives_bind.2 ⟨paths, w', gives_adapt.2 hgives,
        gives_pure.2 ⟨rfl, rfl⟩⟩⟩⟩⟩⟩⟩⟩

theorem exists_gives_runBuild_of_settled {parts : List (List Record)} {q : Partition} {b : Build}
    (hinputs : List.Forall₂ (Yields o.onlySearchData w.disk) inputs parts)
    (hq : choosePartition s o = .ok q)
    (hb : Build.run (s.strict && !o.isLenient) q parts.flatten = .ok b) (hr : Rooted w.disk)
    (hout : Settled w.disk out) (hmakes : Makes w.disk out) (hfits : Fits b out) :
    ∃ output w', Gives (runBuild s inputs (some out) o) w output w' := by
  refine exists_gives_runBuild hinputs hq hb fun v hv => ?_
  rw [← hv] at hr hout hmakes
  obtain ⟨paths, w', hwrite, _⟩ := hout.exists_gives_write ⟨_, _, _, hb⟩ hr hmakes hfits
  exact ⟨paths, w', hwrite⟩

theorem holdsExactly_of_gives_runBuild {parts : List (List Record)} {q : Partition} {b : Build}
    (hinputs : List.Forall₂ (Yields o.onlySearchData w.disk) inputs parts)
    (hq : choosePartition s o = .ok q)
    (hb : Build.run (s.strict && !o.isLenient) q parts.flatten = .ok b) (hr : Rooted w.disk)
    (hout : Settled w.disk out) (h : Gives (runBuild s inputs (some out) o) w output w') :
    Kept w.disk w'.disk ∧ HoldsExactly b out w'.disk := by
  obtain ⟨v, paths, hv, hwrite⟩ := exists_gives_write_of_gives_runBuild hinputs hq hb h
  have hbuilt : b.Built := ⟨_, _, _, hb⟩
  rw [← hv] at hr hout ⊢
  exact ⟨(rewritten_of_gives hbuilt hr hwrite).kept, hout.holdsExactly hbuilt hr hwrite⟩

end SymbolIndex.CommandLine
