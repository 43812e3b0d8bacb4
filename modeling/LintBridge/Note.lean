/-!
Notes: what is written to the log while a checker works.
-/

namespace LintBridge

/-- A line of the log, by what happened. -/
inductive Note where
  | probeFailed (executable reason : String)
  | probeExited (executable : String) (status : Int)
  | executableMissing (checker executable : String)
  | versionUnknown (checker : String)
  | versionTooOld (checker version minimum : String)
  | configMissing (checker path : String)
  | noMarker (path : String)
  | lintExited (checker : String) (status : Int) (target : String)
deriving DecidableEq, Repr

def Note.text : Note → String
  | .probeFailed executable reason => "Version probe for " ++ executable ++ " failed: " ++ reason
  | .probeExited executable status =>
      "Version probe for " ++ executable ++ " exited with " ++ toString status
  | .executableMissing checker executable =>
      checker ++ " disabled: executable '" ++ executable ++ "' not found"
  | .versionUnknown checker => checker ++ " disabled: version could not be determined"
  | .versionTooOld checker version minimum =>
      checker ++ " disabled: version " ++ version ++ " < " ++ minimum
  | .configMissing checker path => checker ++ " disabled: no Biome config above " ++ path
  | .noMarker path => "No project marker found above " ++ path
  | .lintExited checker status target =>
      checker ++ " exited with " ++ toString status ++ " for " ++ target

end LintBridge
