import LintBridge.CommandLine.Arguments
import LintBridge.CommandLine.Setup
import LintBridge.Linter.Lint
import LintBridge.Report.Position
import LintBridge.Settings.Load

/-!
The commands `lint` and `verify`.

`lint` ends with status 2 if the settings or the linter fail, with 1 if it finds an error, and with
0 otherwise; a checker that is not ready is no failure. `verify` ends with 0 if all findings are
good. Arguments that are no use of the program give status 2 and print nothing.
-/

namespace LintBridge.CommandLine

open Terminal

/-- An error that no command tells of: it ends the program with status 1. -/
inductive Failure where
  | load (error : Settings.LoadError)
  | linter (error : Linter.Failure)
  | markup (error : MarkupError)
deriving DecidableEq, Repr

/-- How a command ends: what it printed, its status, and an error that got out. -/
structure Exit where
  out : String
  status : Nat
  failure : Option Failure
deriving DecidableEq, Repr

/-- A command's end, and what it left behind. -/
abbrev Ended := Ran Empty Exit

/-- A command ends with a status of its own choice. -/
def ends (out : String) (status : Nat) : Ended :=
  return ⟨out, status, none⟩

/-- A command is ended by an error that it does not tell of. -/
def breaks (out : String) (failure : Failure) : Ended :=
  return ⟨out, 1, some failure⟩

/-- What is printed for a message; the command line has no terminal. -/
def said (tone : Tone) (emoji : Bool) (text : String) : String :=
  (write [] false ⟨tone, text, emoji, none⟩).1

/-! ### Entries -/

/-- A text without its escape sequences for terminals, `inside` telling whether it starts in one. -/
def dropSequences : (inside : Bool) → List Char → List Char
  | _, [] => []
  | true, c :: rest => dropSequences (!c.isAlpha) rest
  | false, '\x1b' :: '[' :: rest =>
      if (rest.dropWhile fun c => c.isDigit || c == ';' || c == '?').head?.any Char.isAlpha then
        dropSequences true rest
      else '\x1b' :: '[' :: dropSequences false rest
  | false, c :: rest => c :: dropSequences false rest

/-- The emoji in front of an entry. -/
def entryEmoji (severity : Severity) : String :=
  if severity = .error then Tone.bad.emoji else Tone.caution.emoji

/-- The line that is printed for a problem of a file. -/
def entry (emoji : Bool) (filename : String) (source : List Char) (p : Problem) : String :=
  let place := p.start source
  let line := optional emoji (entryEmoji p.severity) ++ filename ++ ":" ++ toString place.line ++
    ":" ++ toString place.column ++ ": " ++ p.severity.name ++ " " ++ p.message
  String.ofList (dropSequences false line.toList) ++ "\n"

/-- The text of a file with unified line ends; a file that cannot be read or is no text is empty. -/
def sourceOf (m : Machine) (filename : String) : List Char :=
  match m.read? (.parse filename) with
  | .ok (some bytes) =>
      match Text.Utf8.decode bytes with
      | .ok cs => Text.unifyNewlines cs
      | .error _ => []
  | _ => []

/-- The entries of published problems. -/
def entries (m : Machine) (emoji : Bool) (p : Publication) : String :=
  String.join (p.problems.map (entry emoji p.filename (sourceOf m p.filename)))

/-! ### Commands -/

/-- Whether a failure of the linter is one that `lint` tells of. -/
def isTold : Linter.Failure → Bool
  | .unavailable .. => true
  | .timedOut .. => true
  | .output (.malformed ..) => true
  | .command (.failed ..) => true
  | .command (.notStarted (.earlierCommand ..)) => true
  | _ => false

/-- What `lint` prints when the checker is not ready. -/
def unavailableText (checker file : String) : String :=
  checker ++ " is not available for " ++ file ++ "; run 'biomecheck verify' for details."

/-- How `lint` ends for problems that were published, of which all entries are printed. -/
def lintExit (emoji : Bool) (file printed : String) (problems : List Problem) : Exit :=
  if problems = [] then
    ⟨printed ++ said .good emoji ("No diagnostics reported for " ++ file), 0, none⟩
  else ⟨printed, if problems.any (·.severity = .error) then 1 else 0, none⟩

/-- Lints a file with a checker. Entries are printed as the problems are published. An entry that
holds half of a surrogate pair is printed like any other; where the output takes strict UTF-8 only,
such an entry cannot be written and breaks the run off, and these runs are left out. -/
def lintWith (m : Machine) (s : Settings) (file : String) (emoji : Bool) : Ended := do
  let check := Linter.check m s file .acceptAll none
  let printed := String.join (check.published.map (entries m emoji))
  match ← check.attempt with
  | .error failure =>
      if isTold failure then ends (printed ++ said .bad emoji failure.message) 2
      else breaks printed (.linter failure)
  | .ok false => ends (printed ++ said .caution emoji (unavailableText s.checkerName file)) 0
  | .ok true => return lintExit emoji file printed (check.published.flatMap (·.problems))

/-- Verifies the setup for a file with a checker. -/
def verifyWith (m : Machine) (s : Settings) (file : String) : Ended := do
  match ← (Linter.verify m s file).attempt with
  | .error failure => breaks "" (.linter failure)
  | .ok verification =>
      match picture ⟨80, true⟩ verification file with
      | .ok drawn => ends drawn (if verification.ok then 0 else 1)
      | .error error => breaks "" (.markup error)

/-- Does what arguments ask for. -/
def perform (m : Machine) (r : Request) : Ended :=
  let emoji := r.verb = .lint && r.emoji
  match Settings.load m r.root m.environment with
  | .error error =>
      if error.isConfig then ends (said .bad emoji error.message) 2 else breaks "" (.load error)
  | .ok settings =>
      match r.verb with
      | .lint => lintWith m settings r.file.text r.emoji
      | .verify => verifyWith m settings r.file.text

/-- Runs the program with arguments. -/
def run (m : Machine) (arguments : List String) : Ended :=
  match Request.of? m arguments with
  | some request => perform m request
  | none => ends "" 2

end LintBridge.CommandLine
