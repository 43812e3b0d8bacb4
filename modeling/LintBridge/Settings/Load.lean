import LintBridge.Machine.Lookup
import LintBridge.Settings.Check
import LintBridge.Text.Utf8
import LintBridge.Toml.Document

/-!
Loading settings from a project file and the environment.

The file may have a section for the checker; names in it may be written with hyphens. A variable of
the environment that is not empty comes before the section, and the section before the standard.
-/

namespace LintBridge.Settings

/-- Why settings could not be loaded. -/
inductive LoadError where
  | access (error : AccessError)
  | undecodable (error : Text.Utf8.DecodeError)
  | unreadable (path : String) (flaw : Toml.Flaw) (place : Toml.Place)
  | numeralTooLong (digits : Nat)
  | tooDeep
  | notTable (path : String)
  | invalid (mismatches : List (Mismatch Fault))
deriving DecidableEq, Repr

/-- The errors that lie in what the file says, by which a command tells bad settings from others. -/
def LoadError.isConfig : LoadError → Bool
  | .unreadable .. | .notTable _ | .invalid _ => true
  | _ => false

/-- A mismatch on a line of its own. -/
def mismatchLine (m : Mismatch Fault) : String :=
  m.placeText ++ ": " ++ m.fault.message

def LoadError.message : LoadError → String
  | .access error => error.message
  | .undecodable error => error.message
  | .unreadable path flaw place =>
      "Failed to parse " ++ path ++ ": " ++ (Toml.ReadError.malformed flaw place).message
  | .numeralTooLong digits => (Toml.ReadError.numeralTooLong digits).message
  | .tooDeep => Toml.ReadError.tooDeep.message
  | .notTable path => "[tool.biomecheck] in " ++ path ++ " must be a table"
  | .invalid mismatches =>
      "Invalid biomecheck configuration: " ++
        String.intercalate "\n" (mismatches.map mismatchLine)

/-- The name of the project file. -/
def fileName : String := "pyproject.toml"

/-- The variable of the environment that names the executable. -/
def executableVariable : String := "BIOMECHECK_EXECUTABLE"

/-- A value of the project file as it is given for a setting. -/
def Given.ofToml : Toml.Value → Given
  | .text s => .text s
  | .int n => .int n
  | .real x => .real x
  | .bool b => .bool b
  | _ => .other

/-- The table of a project file. -/
def readTable (path : String) (bytes : List UInt8) : Except LoadError Toml.Entries :=
  match Text.Utf8.decode bytes with
  | .error e => .error (.undecodable e)
  | .ok cs =>
      match Toml.read cs with
      | .ok entries => .ok entries
      | .error (.malformed flaw place) => .error (.unreadable path flaw place)
      | .error (.numeralTooLong digits) => .error (.numeralTooLong digits)
      | .error .tooDeep => .error .tooDeep

/-- The section for the checker, which may be missing. -/
def sectionOf (path : String) (entries : Toml.Entries) : Except LoadError Toml.Entries :=
  match entries.get? "tool" with
  | some (.table tools) =>
      match Toml.Entries.get? tools "biomecheck" with
      | some (.table settings) => .ok settings
      | some _ => .error (.notTable path)
      | .none => .ok []
  | _ => .ok []

/-- A name of a setting with its hyphens written as underscores. -/
def plainName (name : String) : String :=
  String.ofList (name.toList.map fun c => if c = '-' then '_' else c)

/-- The values that a section gives; of two spellings of a name the last one counts. -/
def valuesOf (settings : Toml.Entries) : List (String × Given) :=
  Assoc.ofList (settings.map fun (name, value) => (plainName name, .ofToml value))

/-- The values that the project file at a path gives. -/
def fileValues (m : Machine) (path : Path) : Except LoadError (List (String × Given)) :=
  match m.isFile path with
  | .error e => .error (.access e)
  | .ok false => .ok []
  | .ok true =>
      match m.read? path with
      | .error e => .error (.access e)
      | .ok bytes => do
          return valuesOf (← sectionOf path.text (← readTable path.text (bytes.getD [])))

/-- The values with the executable that a variable names, unless it is empty. -/
def withVariable (environment : List (String × String)) (values : List (String × Given)) :
    List (String × Given) :=
  match List.lookup executableVariable environment with
  | some name => if name = "" then values else Assoc.put "executable" (.text name) values
  | .none => values

/-- The settings for a root directory, or for the one the machine is in. -/
def load (m : Machine) (root : Option String) (environment : List (String × String)) :
    Except LoadError Settings := do
  let base := match root with
    | some text => Path.parse text
    | .none => m.cwdPath
  let values ← fileValues m (base.join fileName)
  match check (withVariable environment values) with
  | .ok settings => return settings
  | .error mismatches => .error (.invalid mismatches)

end LintBridge.Settings
