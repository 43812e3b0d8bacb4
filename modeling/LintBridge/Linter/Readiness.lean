import LintBridge.Linter.Probe

/-!
Whether a path can be linted: the executable is there, it reports a version, the version is new
enough, and a config applies to the path. The first of these that fails leaves a note, and the rest
is not looked at.
-/

namespace LintBridge.Linter

/-- Not ready, for a reason. -/
def notReady (note : Note) : Ran Failure Bool := do
  .note note
  return false

/-- Whether the linter can lint a path, by the version that was found. -/
def isReadyWith (m : Machine) (s : Settings) (path : String) : Option String → Ran Failure Bool
  | none => notReady (.versionUnknown s.checkerName)
  | some version => do
      if !(← .of (isSupported s version)) then
        notReady (.versionTooOld s.checkerName version s.minVersion)
      else
        match ← .of (findProject m s path) with
        | none => notReady (.configMissing s.checkerName path)
        | some _ => return true

/-- Whether the linter can lint a path. -/
def isReady (m : Machine) (s : Settings) (path : String) : Ran Failure Bool := do
  match ← .of (executablePath m s) with
  | none => notReady (.executableMissing s.checkerName s.executable)
  | some _ => isReadyWith m s path (← installedVersion m s)

end LintBridge.Linter
