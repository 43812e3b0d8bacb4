import LintBridge.Linter.Lint
import LintBridge.Proofs.Machine.Lookup

/-!
A machine with another script for one of its programs.

What a machine's files and its environment answer does not depend on its scripts, so a lookup, the
search for a program and the search for a project have the answers that they had before.
-/

namespace LintBridge

namespace Machine

variable (m : Machine) (key : String) (script : Script)

/-- A program that is started with this first argument does what was said last. -/
theorem script_setScript {arguments : List String} (h : arguments.getD 1 "" = key) :
    (m.setScript key script).script arguments = script.startedWith arguments := by
  simp only [Machine.script, setScript]
  rw [h, Assoc.lookup_put_self, Option.getD_some]

/-! ### Lookups -/

theorem anchored_setScript (text : String) :
    (m.setScript key script).anchored text = m.anchored text := rfl

theorem walk_setScript (place : Place) (steps : List String) :
    (m.setScript key script).walk place steps = m.walk place steps := by
  apply walk_congr
  · rfl
  · rfl

theorem follow_setScript (anchor : Anchor) (steps : List String) :
    (m.setScript key script).follow anchor steps = m.follow anchor steps := by
  simp only [follow, walk_setScript]
  rfl

theorem stat_setScript (p : Path) : (m.setScript key script).stat p = m.stat p := by
  simp only [stat, locate, follow_setScript]
  rfl

theorem isProgram_setScript (text : String) :
    (m.setScript key script).isProgram text = m.isProgram text := by
  simp only [isProgram, locateText?, follow_setScript]
  rfl

theorem resolve_setScript (name : String) :
    (m.setScript key script).resolve name = m.resolve name := by
  have hprogram : (m.setScript key script).isProgram = m.isProgram :=
    funext (isProgram_setScript m key script)
  simp only [resolve, isFile, stat_setScript, search?, hprogram]
  rfl

end Machine

theorem Command.resolved_setScript (m : Machine) (key : String) (script : Script)
    (arguments : List String) :
    resolved (m.setScript key script) arguments = resolved m arguments := by
  cases arguments with
  | nil => rfl
  | cons name rest => simp only [resolved, Machine.resolve_setScript]

/-! ### Projects -/

namespace Project

variable (m : Machine) (key : String) (script : Script)

theorem directories_setScript (path : String) :
    directories (m.setScript key script) path = directories m path := by
  simp only [directories, Machine.isDirectory, Machine.stat_setScript, Machine.anchored_setScript]

theorem markerIn_setScript (directory : Path) (markers : List Marker) :
    markerIn (m.setScript key script) directory markers = markerIn m directory markers := by
  induction markers with
  | nil => rfl
  | cons marker rest ih =>
    simp only [markerIn, Machine.pathExists, Machine.stat_setScript, ih]

theorem firstIn_setScript (markers : List Marker) (directories : List Path) :
    firstIn (m.setScript key script) markers directories = firstIn m markers directories := by
  induction directories with
  | nil => rfl
  | cons directory rest ih => simp only [firstIn, markerIn_setScript, ih]

theorem locate_setScript (names : MarkerNames) (path : String) :
    locate (m.setScript key script) names path = locate m names path := by
  simp only [locate, search, directories_setScript, firstIn_setScript]

end Project

theorem Linter.workingDirectory_setScript (m : Machine) (key : String) (script : Script)
    (s : Settings) (path : String) :
    workingDirectory (m.setScript key script) s path = workingDirectory m s path := by
  simp only [workingDirectory, projectForLinter, Project.forLinter, Project.locate_setScript]

end LintBridge
