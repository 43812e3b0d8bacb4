import LintBridge.Decimal.Fixed
import LintBridge.Machine.Program
import LintBridge.Machine.Ran
import LintBridge.Text.Newline
import LintBridge.Text.Utf8

/-!
Running a command on a machine.

The first argument names the program. Output is read as UTF-8, damage apart, with unified line ends.
A command that is stopped by its timeout ends with the status `timeoutStatus`, keeps the output it
has given, and says in its last line of errors that it was stopped.
-/

namespace LintBridge

/-- Why a command gave no result. -/
inductive CommandError where
  | noArguments
  | notFound (name : String)
  | access (error : AccessError)
  | notStarted (failure : StartFailure)
  | failed (program : String) (status : Int) (out err : String)
deriving DecidableEq, Repr

/-- The text that tells of a command that ended with another status than zero. -/
def failedMessage (program : String) (status : Int) (err : String) : String :=
  "Command '" ++ program ++ "' exited with status " ++ toString status ++ ". stderr: " ++
    if err = "" then "<none>" else err

def StartFailure.message : StartFailure → String
  | .system _ message => message
  | .refusedValue _ message => message
  | .undecodable error => error.message
  | .earlierCommand program status stderr => failedMessage program status stderr
  | .other _ message => message

def CommandError.message : CommandError → String
  | .noArguments => "subprocess command requires at least one argument"
  | .notFound name => "Executable '" ++ name ++ "' was not found on PATH"
  | .access error => error.message
  | .notStarted failure => failure.message
  | .failed program status _ err => failedMessage program status err

/-- A command: its arguments, the directory to run in, and how long it may take. -/
structure Command where
  arguments : List String
  cwd : Option Path
  timeout : Option Decimal.Binary64
  discardInput : Bool
deriving Repr

/-- A command that has come to its end. -/
structure Completed where
  arguments : List String
  status : Int
  out : String
  err : String
deriving DecidableEq, Repr

namespace Command

/-- The status of commands that were stopped by their timeout. -/
def timeoutStatus : Int := 124

/-- The text of some output. -/
def outputText (bytes : List UInt8) : String :=
  String.ofList (Text.unifyNewlines (Text.Utf8.decodeReplacing bytes))

/-- The text of the output of a stopped program; its line ends stay. -/
def stoppedText (bytes : Option (List UInt8)) : String :=
  String.ofList (Text.Utf8.decodeReplacing (bytes.getD []))

/-- The line that tells of a timeout. -/
def timeoutLine (timeout : Option Decimal.Binary64) : String :=
  match timeout with
  | some limit => "Command timed out after " ++ limit.toTenthsText ++ "s"
  | none => "Command timed out"

/-- The arguments with the program that the first of them stands for. -/
def resolved (m : Machine) (arguments : List String) : Except CommandError (List String) :=
  match arguments with
  | [] => .error .noArguments
  | name :: rest =>
      match m.resolve name with
      | .ok (some program) => .ok (program :: rest)
      | .ok none => .error (.notFound name)
      | .error e => .error (.access e)

/-- How a program with a script ends. -/
def outcome (arguments : List String) (timeout : Option Decimal.Binary64) :
    Script → Except CommandError Completed
  | .finishes status out err => .ok ⟨arguments, status, outputText out, outputText err⟩
  | .stopped out err =>
      let given := stoppedText err
      let line := timeoutLine timeout
      .ok ⟨arguments, timeoutStatus, stoppedText out,
        if given = "" then line else given ++ "\n" ++ line⟩
  | .fails failure => .error (.notStarted failure)

/-- Runs a command. -/
def run (m : Machine) (c : Command) : Ran CommandError Completed := do
  let arguments ← .of (resolved m c.arguments)
  .launch ⟨arguments, c.cwd.map Path.text, c.timeout, c.discardInput⟩
  .of (outcome arguments c.timeout (m.script arguments))

/-- Refuses a status other than zero. -/
def requireSuccess (c : Completed) : Except CommandError Completed :=
  if c.status = 0 then .ok c
  else .error (.failed (c.arguments.headD "") c.status c.out c.err)

/-- Runs a command that must end with status zero. -/
def runChecked (m : Machine) (c : Command) : Ran CommandError Completed := do
  .of (requireSuccess (← run m c))

end Command
end LintBridge
