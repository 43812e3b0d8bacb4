import LintBridge.Decimal.Binary64
import LintBridge.Project

/-!
The settings of a checker: how the linter is called, from which version on it is taken, what marks a
project, and how long a run may last.
-/

namespace LintBridge

/-- What a checker has to know. -/
structure Settings where
  executable : String
  versionFlag : String
  minVersion : String
  subcommand : String
  reporterFlag : String
  markers : MarkerNames
  timeout : Option Decimal.Binary64
  checkerName : String
deriving DecidableEq, Repr

/-- The settings that apply where nothing else is said. -/
def Settings.standard : Settings where
  executable := "biome"
  versionFlag := "--version"
  minVersion := "1.6.0"
  subcommand := "lint"
  reporterFlag := "--json"
  markers := .standard
  timeout := none
  checkerName := "biome"

end LintBridge
