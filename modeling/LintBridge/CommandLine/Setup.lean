import LintBridge.Linter.Verification
import LintBridge.Terminal.Console
import LintBridge.Terminal.Table

/-!
The picture of a verification: a table of the findings and a panel that sums them up.
-/

namespace LintBridge.CommandLine

open Terminal

/-- The markup of a finding's status. -/
def statusMarkup (ok : Bool) : String :=
  if ok then "[green]ok[/]" else "[red]missing[/]"

/-- What a panel says of all findings. -/
def summary (ok : Bool) : String :=
  if ok then "Checker is ready" else "Checker is disabled"

/-- A column: its name and the markup of its cells. -/
def column (name : String) (overflow : Overflow) (markups : List String) :
    Except MarkupError Column := do
  return ⟨Cell.plain name, ← markups.mapM Cell.ofMarkup, overflow⟩

/-- The picture of a verification of a path. A colour that cannot be read is a fault of a text that
is drawn with it, and told only if the markup of all texts is read. -/
def picture (screen : Screen) (v : Verification) (path : String) : Except MarkupError String := do
  let labels ← column "Check" .ellipsis (v.findings.map (·.label))
  let statuses ← column "Status" .ellipsis (v.findings.map fun f => statusMarkup f.ok)
  let details ← column "Details" .fold (v.findings.map (·.message))
  let title ← Cell.ofMarkup (v.checker ++ " verification for " ++ path)
  let columns := [labels, statuses, details]
  match tableStain? screen title columns with
  | some stain => throw (.badColour stain.error)
  | none =>
      return joinLines
        (tableLines screen title columns ++ panelLines screen.width (summary v.ok).toList)

end LintBridge.CommandLine
