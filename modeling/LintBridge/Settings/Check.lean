import LintBridge.Assoc
import LintBridge.Checked
import LintBridge.Decimal.Numeral
import LintBridge.Settings.Basic
import LintBridge.Text.Blank
import LintBridge.Version

/-!
From named values to settings.

Each setting has a name; one that is not named keeps its standard value, and a name that is none of
a setting is refused. A timeout may be given as a number, a truth value or the text of a number. The
minimum version is kept in its written form, so that checking settings again changes nothing.
-/

namespace LintBridge.Settings

/-- A value as it is given for a setting. A text that holds halves of surrogate pairs is given with
their stand-ins. -/
inductive Given where
  | none
  | bool (value : Bool)
  | int (value : Int)
  | real (value : Decimal.Binary64)
  | text (content : String)
  | brokenText (content : String)
  | other
deriving DecidableEq, Repr

/-- Why a value is refused. -/
inductive Fault where
  | notText
  | brokenText
  | notNumber
  | unreadableNumber
  | notPositive
  | blank
  | badVersion (error : VersionError)
  | unknown
deriving DecidableEq, Repr

def Fault.message : Fault → String
  | .notText => "Input should be a valid string"
  | .brokenText =>
      "Input should be a valid string, unable to parse raw data as a unicode string"
  | .notNumber => "Input should be a valid number"
  | .unreadableNumber => "Input should be a valid number, unable to parse string as a number"
  | .notPositive => "Input should be greater than 0"
  | .blank => "Value error, value must not be blank"
  | .badVersion error => "Value error, " ++ error.message
  | .unknown => "Extra inputs are not permitted"

/-- The text of which a fault tells, and which can only be shown if it has bytes. -/
def Fault.told : Fault → String
  | .badVersion error => error.message
  | _ => ""

/-- The first halves of surrogate pairs that keep faults from being shown. -/
def untellable? (mismatches : List (Mismatch Fault)) : Option Text.NoBytes :=
  mismatches.findSome? fun m => Text.firstHalves? m.fault.told.toList

/-! ### Single values -/

/-- A text. -/
def checkText : Given → Checked Fault String
  | .text s => .ok s
  | .brokenText s => .ok s
  | _ => .refuse .notText

/-- A text that is more than blanks. -/
def checkFilled (given : Given) : Checked Fault String :=
  (checkText given).andThen fun s =>
    if Text.trim s.toList = [] then .refuse .blank else .ok s

/-- A version, in its written form. -/
def checkVersion (given : Given) : Checked Fault String :=
  (checkText given).andThen fun s =>
    match Version.parse s with
    | .ok v => .ok v.text
    | .error e => .refuse (.badVersion e)

/-- Whether every underscore of a text stands alone and between other characters. -/
def hasSingleUnderscores (cs : List Char) : Bool :=
  cs.contains '_' && Decimal.wellSeparated cs

/-- The number that a text spells: with white space around it, or with underscores in it. -/
def numberOfText? (cs : List Char) : Option Decimal.Binary64 :=
  (Decimal.Binary64.ofText? (Text.trimSpace cs)).or
    (if hasSingleUnderscores cs then Decimal.Binary64.ofText? (cs.filter (· != '_')) else .none)

/-- The number that a value stands for. -/
def numberOf : Given → Except Fault Decimal.Binary64
  | .bool b => .ok (.ofInt (if b then 1 else 0))
  | .int n => if (Decimal.Binary64.ofInt n).isFinite then .ok (.ofInt n) else .error .notNumber
  | .real x => .ok x
  | .text s =>
      match numberOfText? s.toList with
      | some x => .ok x
      | .none => .error .unreadableNumber
  | .brokenText _ => .error .brokenText
  | _ => .error .notNumber

/-- A time above zero, or none. -/
def checkTimeout : Given → Checked Fault (Option Decimal.Binary64)
  | .none => .ok .none
  | given =>
      match numberOf given with
      | .ok x => if x.isPositive then .ok (some x) else .refuse .notPositive
      | .error fault => .refuse fault

/-! ### All values -/

/-- The names of the settings. -/
def names : List String :=
  [ "executable", "version_flag", "min_version", "subcommand", "reporter_flag", "primary_config",
    "secondary_config", "dependency_dir", "timeout", "checker_name" ]

/-- The setting of a name, or its standard value. -/
def setting {α : Type} (values : List (String × Given)) (name : String) (standard : α)
    (check : Given → Checked Fault α) : Checked Fault α :=
  match List.lookup name values with
  | some given => (check given).under (.field name)
  | .none => .ok standard

/-- Refuses names that are none of a setting. -/
def checkNames : List (String × Given) → Checked Fault Unit
  | [] => .ok ()
  | (name, _) :: rest =>
      (Checked.both
        (if names.contains name then .ok () else Checked.under (.field name) (.refuse .unknown))
        (checkNames rest)).map fun _ => ()

/-- The names of the markers. -/
def checkMarkers (values : List (String × Given)) : Checked Fault MarkerNames :=
  let standard := MarkerNames.standard
  (Checked.both (setting values "primary_config" standard.primary checkText)
    (.both (setting values "secondary_config" standard.secondary checkText)
      (setting values "dependency_dir" standard.dependencies checkText))).map
    fun (primary, secondary, dependencies) => ⟨primary, secondary, dependencies⟩

/-- The settings that named values stand for; no name may come twice. -/
def check (values : List (String × Given)) : Checked Fault Settings :=
  (Checked.both (setting values "executable" standard.executable checkFilled)
    (.both (setting values "version_flag" standard.versionFlag checkText)
      (.both (setting values "min_version" standard.minVersion checkVersion)
        (.both (setting values "subcommand" standard.subcommand checkFilled)
          (.both (setting values "reporter_flag" standard.reporterFlag checkText)
            (.both (checkMarkers values)
              (.both (setting values "timeout" standard.timeout checkTimeout)
                (.both (setting values "checker_name" standard.checkerName checkFilled)
                  (checkNames values))))))))).map
    fun (executable, versionFlag, minVersion, subcommand, reporterFlag, markers, timeout,
        checkerName, _) =>
      ⟨executable, versionFlag, minVersion, subcommand, reporterFlag, markers, timeout, checkerName⟩

end LintBridge.Settings
