import LintBridge.Text.Blank
import LintBridge.Text.Search

/-!
The envelope of a report. The linter may print a banner in front of its report and the sections of a
log behind it; the payload is what stands between.
-/

namespace LintBridge.Report

/-- The banner in front of a report. -/
def banner : List Char :=
  ("The --json option is unstable/experimental and its output might change between " ++
    "patches/minor releases.").toList

/-- The mark of the log's first section. -/
def sectionMark : List Char := "lint ━".toList

/-- The text from behind the first banner to before the next section mark, or to the end, without
blanks at its ends. Without a banner it is the whole text as it is. -/
def payload (output : List Char) : List Char :=
  match Text.breakAt? banner output with
  | none => output
  | some (_, after) =>
      match Text.breakAt? sectionMark after with
      | some (inside, _) => Text.trim inside
      | none => Text.trim after

end LintBridge.Report
