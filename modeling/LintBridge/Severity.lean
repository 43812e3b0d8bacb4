import LintBridge.Text.Blank
import LintBridge.Text.LetterCase

/-!
Severities. The linter writes a label of its own into each diagnostic; `Severity.ofLabel` reads it
through a table, without regard to case and to blanks around, and falls back to a severity for
labels that the table leaves out.
-/

namespace LintBridge

/-- How bad a problem is to the host. -/
inductive Severity where
  | error
  | warning
  | info
deriving DecidableEq, Repr

namespace Severity

/-- The name of a severity. -/
def name : Severity → String
  | .error => "error"
  | .warning => "warning"
  | .info => "info"

/-- The severity of a name. -/
def ofName? (s : String) : Option Severity :=
  [Severity.error, .warning, .info].find? (·.name = s)

theorem ofName?_name (s : Severity) : ofName? s.name = some s := by
  cases s <;> rfl

/-- The text that refuses a name. -/
def unknownMessage (quotedName : String) : String :=
  quotedName ++ " is not a valid Severity"

/-- A table from labels to severities; of two entries of a label the first one counts. -/
abbrev Table := List (String × Severity)

/-- The labels of the linter. -/
def labels : Table :=
  [ ("error", .error),
    ("fatal", .error),
    ("warning", .warning),
    ("information", .info),
    ("hint", .info) ]

/-- The form of a label that tables hold: lower case, without blanks around. -/
def plainLabel (label : String) : String :=
  String.ofList (Text.lower (Text.trim label.toList))

/-- The severity of a label by a table, and `fallback` for other labels. -/
def ofLabelBy (table : Table) (fallback : Severity) (label : String) : Severity :=
  (List.lookup (plainLabel label) table).getD fallback

/-- The severity of a label of the linter. What it does not know is a warning. -/
def ofLabel (label : String) : Severity :=
  ofLabelBy labels .warning label

end Severity
end LintBridge
