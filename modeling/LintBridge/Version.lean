import LintBridge.Decimal.Integer
import LintBridge.Text.Search

/-!
Versions of three whole numbers: reading and writing one, finding the one that a program reports,
and the gate that an installed version must pass.

The gate writes both versions anew and compares the releases that these texts spell, which are
numbers without zeros at their end. For versions without negative numbers its order is the order of
the triples.
-/

namespace LintBridge

/-- A version `major.minor.patch`. -/
structure Version where
  major : Int
  minor : Int
  patch : Int
deriving DecidableEq, Repr

/-- Why a text is no version, or none that the gate takes. -/
inductive VersionError where
  | notThree (text : String)
  | badNumber (error : Decimal.IntegerError)
  | negative (text : String)
deriving DecidableEq, Repr

def VersionError.message : VersionError → String
  | .notThree text => "expected major.minor.patch, got '" ++ text ++ "'"
  | .badNumber error => error.message
  | .negative text => "Invalid version: '" ++ text ++ "'"

namespace Version

/-- One of the numbers of a version. -/
def readNumber (cs : List Char) : Except VersionError Int :=
  match Decimal.readInteger cs with
  | .ok n => .ok n
  | .error e => .error (.badNumber e)

/-- The version that a text spells, blanks around apart. -/
def parse (text : String) : Except VersionError Version :=
  match Text.splitAt '.' (Text.trim text.toList) with
  | [a, b, c] => do
      let major ← readNumber a
      let minor ← readNumber b
      let patch ← readNumber c
      return ⟨major, minor, patch⟩
  | _ => .error (.notThree text)

/-- The written version. -/
def text (v : Version) : String :=
  toString v.major ++ "." ++ toString v.minor ++ "." ++ toString v.patch

/-- The order of versions: by major, then by minor, then by patch number. -/
def le (v w : Version) : Bool :=
  v.major < w.major ||
    (v.major == w.major &&
      (v.minor < w.minor || (v.minor == w.minor && v.patch ≤ w.patch)))

/-! ### The version that a program reports -/

/-- The mark in front of a reported version. -/
def label : List Char := "Version:".toList

/-- A run of decimal digits, at least one. -/
def takeRun? (cs : List Char) : Option (List Char × List Char) :=
  match cs.takeWhile Text.isDecimalDigit with
  | [] => none
  | digits => some (digits, cs.dropWhile Text.isDecimalDigit)

/-- Three runs of digits between points, at the start of a text. -/
def takeTriple? (cs : List Char) : Option (List Char) := do
  let (major, rest) ← takeRun? cs
  let rest ← ['.'].isPrefixOf? rest
  let (minor, rest) ← takeRun? rest
  let rest ← ['.'].isPrefixOf? rest
  let (patch, _) ← takeRun? rest
  return major ++ '.' :: minor ++ '.' :: patch

/-- The version behind a label at the start of a text. -/
def takeLabelled? (cs : List Char) : Option (List Char) := do
  takeTriple? (Text.trimStart (← label.isPrefixOf? cs))

/-- The first labelled version of a text. -/
def firstLabelled? : List Char → Option (List Char)
  | [] => takeLabelled? []
  | c :: rest => (takeLabelled? (c :: rest)).or (firstLabelled? rest)

/-- The version that a report names. -/
def reported? (report : String) : Option String :=
  (firstLabelled? report.toList).map String.ofList

/-! ### The gate -/

/-- Numbers without the zeros at their end. -/
def dropZeros (numbers : List Nat) : List Nat :=
  (numbers.reverse.dropWhile (· = 0)).reverse

/-- The release that a written version spells: its numbers without the zeros at their end. The
numbers of a release are runs of the ten digits, so a version with a negative number is none. -/
def readRelease (text : String) : Except VersionError (List Nat) :=
  let parts := Text.splitAt '.' text.toList
  if parts.all fun part => !part.isEmpty && part.all Char.isDigit then do
    let numbers ← parts.mapM readNumber
    return dropZeros (numbers.map Int.toNat)
  else .error (.negative text)

/-- The order of releases: by the first number that differs; a release comes before its
continuations. -/
def releaseLe : List Nat → List Nat → Bool
  | [], _ => true
  | _ :: _, [] => false
  | m :: ms, n :: ns => m < n || (m == n && releaseLe ms ns)

/-- Whether an installed version is at least the minimum. Both are read as versions, and what is
compared are the releases that these spell when they are written again. -/
def isSupported (installed minimum : String) : Except VersionError Bool := do
  let v ← parse installed
  let w ← parse minimum
  let r ← readRelease v.text
  let s ← readRelease w.text
  return releaseLe s r

end Version
end LintBridge
