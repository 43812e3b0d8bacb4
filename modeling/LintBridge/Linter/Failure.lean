import LintBridge.Machine.Process
import LintBridge.Report.ReadError
import LintBridge.Version

/-!
Why a checker cannot answer.

Three failures are the checker's own: the linter is unavailable, it was stopped by its timeout, or
its output is no report. The others come from the files, the commands and the versions it works
with, and from the host it publishes to.
-/

namespace LintBridge.Linter

/-- Why a question to a checker has no answer. -/
inductive Failure where
  | unavailable (executable reason : String)
  | timedOut (executable : String) (limit : Option Decimal.Binary64)
  | output (error : Report.ReadError)
  | access (error : AccessError)
  | command (error : CommandError)
  | version (error : VersionError)
  | host (label message : String)
deriving DecidableEq, Repr

/-- The text that tells of a linter that could not be started. -/
def unavailableMessage (executable reason : String) : String :=
  "Biome executable '" ++ executable ++ "' is unavailable: " ++ reason

/-- The text that tells of a linter that took too long. -/
def timedOutMessage (executable : String) (limit : Option Decimal.Binary64) : String :=
  let time := match limit with
    | some x => x.toTenthsText ++ "s"
    | none => "the host limit"
  "Biome executable '" ++ executable ++ "' timed out after " ++ time

def Failure.message : Failure → String
  | .unavailable executable reason => unavailableMessage executable reason
  | .timedOut executable limit => timedOutMessage executable limit
  | .output error => error.message
  | .access error => error.message
  | .command error => error.message
  | .version error => error.message
  | .host _ message => message

end LintBridge.Linter
