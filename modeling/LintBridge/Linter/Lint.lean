import LintBridge.Linter.Readiness
import LintBridge.Report.Problem

/-!
Linting a path.

The path is made absolute first, so that it means the same to the linter, which runs in the
directory of the project. The linter ends with another status than zero when it finds something, so
what it prints decides: output that is a report gives the problems, anything else is a failure.
Problems are published only if the checker is ready, and only all together. The host takes them by a
sink, which may fail; then it has not received them.
-/

namespace LintBridge.Linter

/-- The command that lints a path. -/
def buildCommand (s : Settings) (path : String) : List String :=
  [s.executable, s.subcommand, s.reporterFlag, path]

/-- The project that the linter runs in. -/
def projectForLinter (m : Machine) (s : Settings) (path : String) :
    Ran Failure (Option Project) :=
  (Project.forLinter m s.markers path).mapError .access

/-- The directory that the linter runs in; without one it is left to the host. -/
def workingDirectory (m : Machine) (s : Settings) (path : String) : Ran Failure (Option Path) := do
  return (← projectForLinter m s path).map (·.directory)

/-- What an error of the lint command means. -/
def commandFailure (s : Settings) : CommandError → Failure
  | .notStarted (.undecodable error) => .output (.malformed (.notText error.reason) "")
  | .notStarted (.system _ message) => .unavailable s.executable message
  | .notFound name => .unavailable s.executable (CommandError.notFound name).message
  | .access (.denied path) => .unavailable s.executable (AccessError.denied path).message
  | e => .command e

/-- The problems that a linter which came to its end tells of an anchored path. -/
def told (s : Settings) (target : Path) (buffer : Option String) (completed : Completed) :
    Ran Failure (List Problem) :=
  if completed.status = Command.timeoutStatus then .fail (.timedOut s.executable s.timeout)
  else do
    .note (.lintExited s.checkerName completed.status target.text)
    let owner : Owner := ⟨s.checkerName, some target.text, buffer⟩
    .of ((Report.translate owner completed.out.toList).mapError .output)

/-- The problems of an anchored path. -/
def lintAnchored (m : Machine) (s : Settings) (target : Path) (buffer : Option String) :
    Ran Failure (List Problem) := do
  let cwd ← workingDirectory m s target.text
  let command : Command := ⟨buildCommand s target.text, cwd, s.timeout, true⟩
  told s target buffer (← (Command.run m command).mapError (commandFailure s))

/-- The absolute path that a text names. -/
def anchor (m : Machine) (path : String) : Ran Failure Path :=
  .of ((m.anchored path).mapError .access)

/-- The problems of a path. -/
def lint (m : Machine) (s : Settings) (path : String) (buffer : Option String) :
    Ran Failure (List Problem) := do
  lintAnchored m s (← anchor m path) buffer

/-- The part of a host that takes publications. -/
abbrev Sink := Publication → Except Failure Unit

/-- A sink that takes whatever it is given. -/
def Sink.acceptAll : Sink := fun _ => .ok ()

/-- Hands a publication over to a sink. -/
def handOver (sink : Sink) (p : Publication) : Ran Failure Unit := do
  .of (sink p)
  .publish p

/-- Lints a path for a sink if the checker is ready for it, and tells whether it is. -/
def check (m : Machine) (s : Settings) (path : String) (sink : Sink) (buffer : Option String) :
    Ran Failure Bool := do
  let target ← anchor m path
  if ← isReady m s target.text then
    handOver sink ⟨target.text, ← lint m s target.text buffer⟩
    return true
  else return false

end LintBridge.Linter
