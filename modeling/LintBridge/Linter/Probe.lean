import LintBridge.Linter.Failure
import LintBridge.Settings.Basic

/-!
Asking a linter for its version.

A probe that cannot be started or ends badly is an ordinary outcome: it leaves a note, and there is
no version. Only errors that have nothing to do with starting a program get through.
-/

namespace LintBridge.Linter

/-- Whether an error of a command means no more than that the probe failed. -/
def isProbeFailure : CommandError → Bool
  | .access .noHome => false
  | .notStarted (.other ..) => false
  | _ => true

/-- The version that a probe tells of, by how its command came to its end. -/
def probed (executable : String) : Except CommandError Completed → Ran Failure (Option String)
  | .error e =>
      if isProbeFailure e then do
        .note (.probeFailed executable e.message)
        return none
      else .fail (.command e)
  | .ok completed =>
      if completed.status = 0 then return Version.reported? completed.out
      else do
        .note (.probeExited executable completed.status)
        return none

/-- The version that an executable reports for a flag. -/
def probe (m : Machine) (executable flag : String) (cwd : Option Path)
    (timeout : Option Decimal.Binary64) : Ran Failure (Option String) := do
  probed executable (← (Command.run m ⟨[executable, flag], cwd, timeout, true⟩).attempt)

/-- The version of the linter that settings name. -/
def installedVersion (m : Machine) (s : Settings) : Ran Failure (Option String) :=
  probe m s.executable s.versionFlag none s.timeout

/-- The program that settings name. -/
def executablePath (m : Machine) (s : Settings) : Except Failure (Option String) :=
  (m.resolve s.executable).mapError .access

/-- Whether a version of the linter is one that settings take. -/
def isSupported (s : Settings) (version : String) : Except Failure Bool :=
  (Version.isSupported version s.minVersion).mapError .version

/-- The project whose config applies to a path. -/
def findProject (m : Machine) (s : Settings) (path : String) : Except Failure (Option Project) :=
  (Project.find m s.markers path).mapError .access

end LintBridge.Linter
