import LintBridge.Severity

/-!
The report of the linter: diagnostics, each with a category, a severity label, a description and the
stretch of bytes it is about.
-/

namespace LintBridge

/-- A stretch of bytes of a file, from `start` to before `stop`, both counted from zero. -/
structure Span where
  start : Nat
  stop : Nat
  start_le_stop : start ≤ stop
deriving DecidableEq, Repr

/-- What the linter says about one stretch. The severity is a label of the linter's own. -/
structure Diagnostic where
  category : String
  label : String
  description : String
  span : Span
deriving DecidableEq, Repr

/-- The diagnostics of a report, in its order. -/
structure Report where
  diagnostics : List Diagnostic
deriving DecidableEq, Repr

end LintBridge
