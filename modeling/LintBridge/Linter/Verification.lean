import LintBridge.Linter.Probe

/-!
The verification of a checker's setup for a path: one finding each about the executable, the config
and the version. All three are made even if the first of them is bad; only the version is not asked
for if there is no executable.
-/

namespace LintBridge

/-- One line of a verification. -/
structure Finding where
  label : String
  message : String
  ok : Bool
deriving DecidableEq, Repr

/-- The findings for one path. -/
structure Verification where
  checker : String
  findings : List Finding
deriving DecidableEq, Repr

/-- Whether every finding is good. -/
def Verification.ok (v : Verification) : Bool :=
  v.findings.all (·.ok)

namespace Linter

/-- What is found out about the executable. -/
def executableFinding (s : Settings) : Option String → Finding
  | some program => ⟨"executable", "Found at " ++ program, true⟩
  | none => ⟨"executable", "'" ++ s.executable ++ "' not found", false⟩

/-- What is found out about the config. -/
def configFinding : Option Project → Finding
  | some project => ⟨"configuration", "Found at " ++ project.path.text, true⟩
  | none => ⟨"configuration", "No Biome config found", false⟩

/-- What is found out about the version, which must be one that the settings take. -/
def versionFinding (s : Settings) : Option String → Except Failure Finding
  | none => .ok ⟨"version", "not determined", false⟩
  | some version => do
      if ← isSupported s version then return ⟨"version", version, true⟩
      else return ⟨"version", version ++ " (requires >= " ++ s.minVersion ++ ")", false⟩

/-- The findings about a checker's setup for a path. -/
def verify (m : Machine) (s : Settings) (path : String) : Ran Failure Verification := do
  let program ← .of (executablePath m s)
  let project ← .of (findProject m s path)
  let version ← if program.isSome then installedVersion m s else pure none
  let finding ← .of (versionFinding s version)
  return ⟨s.checkerName, [executableFinding s program, configFinding project, finding]⟩

end Linter
end LintBridge
