import LintBridge.Report.Envelope
import LintBridge.Report.ReadError

/-!
Problems: what a host shows of a report, one for each diagnostic and in the same order. Positions
count from one; the severity is one of the host's.

`translate` takes the output of the linter all the way. Only the first document of the output
counts, and of an array of documents the first item.
-/

namespace LintBridge

/-- A problem of a file. -/
structure Problem where
  position : Nat
  endPosition : Nat
  severity : Severity
  message : String
  category : String
  checker : String
  filename : Option String
  buffer : Option String
deriving DecidableEq, Repr

/-- Whom a problem belongs to. -/
structure Owner where
  checker : String
  filename : Option String
  buffer : Option String
deriving DecidableEq, Repr

/-- The problem that a diagnostic tells of. -/
def Problem.ofDiagnostic (owner : Owner) (d : Diagnostic) : Problem where
  position := d.span.start + 1
  endPosition := d.span.stop + 1
  severity := .ofLabel d.label
  message := d.description ++ "(" ++ d.category ++ ")"
  category := d.category
  checker := owner.checker
  filename := owner.filename
  buffer := owner.buffer

@[simp]
theorem Problem.severity_ofDiagnostic (owner : Owner) (d : Diagnostic) :
    (Problem.ofDiagnostic owner d).severity = .ofLabel d.label :=
  rfl

@[simp]
theorem Problem.message_ofDiagnostic (owner : Owner) (d : Diagnostic) :
    (Problem.ofDiagnostic owner d).message = d.description ++ "(" ++ d.category ++ ")" :=
  rfl

/-- The problems of a file, as they are given to a host. -/
structure Publication where
  filename : String
  problems : List Problem
deriving DecidableEq, Repr

namespace Report

/-- The problems of a report. -/
def problems (owner : Owner) (r : Report) : List Problem :=
  r.diagnostics.map (.ofDiagnostic owner)

/-- The first document of a text, blanks in front apart. -/
def firstDocument (text : List Char) : Except ReadError Json :=
  match Text.trimStart text with
  | [] => .error (.malformed .noDocument (String.ofList text))
  | cs =>
      match Json.read cs with
      | .ok (document, _) => .ok document
      | .error (.malformed flaw position) =>
          .error (.malformed (.badJson flaw position) (String.ofList text))
      | .error (.numeralTooLong digits) => .error (.numeralTooLong digits)
      | .error (.tooDeep container) => .error (.tooDeep container)

/-- The report that a text starts with. -/
def parse (text : List Char) : Except ReadError Report := do
  let malformed (reason : Reason) : ReadError := .malformed reason (String.ofList text)
  let document ←
    match ← firstDocument text with
    | .arr [] => .error (malformed .emptyArray)
    | .arr (first :: _) => pure first
    | document => pure document
  match decode document with
  | .ok report => return report
  | .error mismatches => .error (malformed (.mismatched mismatches))

/-- The problems that the output of the linter tells of. -/
def translate (owner : Owner) (output : List Char) : Except ReadError (List Problem) := do
  return (← parse (payload output)).problems owner

end Report
end LintBridge
