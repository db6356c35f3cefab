import SymbolIndex.CommandLine.Run
import SymbolIndex.Proofs.Settings.File

/-!
# Running the program

The program ends as its command does under the settings in force (`run_of_gives`,
`run_of_fails`), and leaves the disk that the command leaves.
-/

namespace SymbolIndex.CommandLine

open File SymbolIndex.Effect World

variable {configPath : Path} {d : Disk} {arguments : List String} {isVerbose : Bool}
  {command : Command} {w : World}

theorem run_of_gives {output : Output}
    (hread : Invocation.read arguments = .ok ⟨isVerbose, command⟩)
    (h : Gives (command.run configPath (Settings.inForce configPath d)) ⟨d, []⟩ output w) :
    run configPath d arguments = (.done output, w.log.filter (isShown isVerbose), w.disk) := by
  have hload : Gives (Settings.load configPath : World.Effect Failure Settings) ⟨d, []⟩
      (Settings.inForce configPath d) ⟨d, []⟩ := Settings.gives_load configPath ⟨d, []⟩
  have hprogram : (do command.run configPath (← Settings.load configPath) :
      World.Effect Failure Output).run ⟨d, []⟩ = (.ok output, w) := gives_bind.2 ⟨_, _, hload, h⟩
  unfold run
  rw [hread]
  dsimp only
  rw [hprogram]

theorem run_of_fails {f : Failure} (hread : Invocation.read arguments = .ok ⟨isVerbose, command⟩)
    (h : Fails (command.run configPath (Settings.inForce configPath d)) ⟨d, []⟩ f w) :
    run configPath d arguments = (.failed f, w.log.filter (isShown isVerbose), w.disk) := by
  have hload : Gives (Settings.load configPath : World.Effect Failure Settings) ⟨d, []⟩
      (Settings.inForce configPath d) ⟨d, []⟩ := Settings.gives_load configPath ⟨d, []⟩
  have hprogram : (do command.run configPath (← Settings.load configPath) :
      World.Effect Failure Output).run ⟨d, []⟩ = (.error f, w) :=
    fails_bind.2 (.inr ⟨_, _, hload, h⟩)
  unfold run
  rw [hread]
  dsimp only
  rw [hprogram]

end SymbolIndex.CommandLine
