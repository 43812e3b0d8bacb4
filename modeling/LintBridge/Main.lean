import LintBridge.CommandLine.Run
import LintBridge.Json.Reader
import LintBridge.Machine.Description

/-!
The program. It reads the description of a machine from its input and runs the command that its
arguments ask for on that machine. An input that describes no machine gives status 2.
-/

namespace LintBridge

/-- The machine that a text describes. -/
def machineOfText? (text : String) : Option Machine :=
  match Json.read (Text.trimStart text.toList) with
  | .ok (document, _) => Machine.ofJson? document
  | .error _ => none

end LintBridge

/-- Runs the command of the arguments on the machine that the input describes. -/
def main (arguments : List String) : IO UInt32 := do
  match LintBridge.machineOfText? (← (← IO.getStdin).readToEnd) with
  | none => return 2
  | some machine =>
      match (LintBridge.CommandLine.run machine arguments).result with
      | .ok ended =>
          (← IO.getStdout).putStr ended.out
          return UInt32.ofNat ended.status
