import LintBridge.Checked
import LintBridge.Report.Basic
import LintBridge.Report.Offset

/-!
From a JSON document to a report.

A report is an object with an array of diagnostics; a diagnostic is an object with three texts and a
location; a location is an object with a span of two offsets, the second not before the first.
Members beyond these do not count. `Report.decode` finds every mismatch, in the order of the parts
just named.
-/

namespace LintBridge.Report

/-- The parts of a report that are objects. -/
inductive Shape where
  | report
  | diagnostic
  | location
deriving DecidableEq, Repr

/-- The name under which a part is told of. -/
def Shape.name : Shape → String
  | .report => "BiomeReport"
  | .diagnostic => "BiomeDiagnostic"
  | .location => "BiomeLocation"

/-- Why a part of a document is not what it should be. -/
inductive Fault where
  | notObject (shape : Shape)
  | missing
  | notList
  | notPair
  | tooManyItems (count : Nat)
  | notText
  | offset (fault : OffsetFault)
  | reversed (start stop : Nat)
deriving DecidableEq, Repr

def Fault.message : Fault → String
  | .notObject shape => "Input should be a valid dictionary or instance of " ++ shape.name
  | .missing => "Field required"
  | .notList => "Input should be a valid list"
  | .notPair => "Input should be a valid tuple"
  | .tooManyItems count => s!"Tuple should have at most 2 items after validation, not {count}"
  | .notText => "Input should be a valid string"
  | .offset fault => fault.message
  | .reversed start stop => s!"Value error, span end {stop} precedes start {start}"

/-- The members of an object. -/
def members (shape : Shape) : Json → Checked Fault (List (String × Json))
  | .obj members => .ok members
  | _ => .refuse (.notObject shape)

/-- The member of a name. -/
def field {α : Type} (name : String) (check : Json → Checked Fault α)
    (members : List (String × Json)) : Checked Fault α :=
  Checked.under (.field name) <|
    match Json.lookup name members with
    | some value => check value
    | none => .refuse .missing

/-- A text; half a surrogate pair is let pass. -/
def checkText : Json → Checked Fault String
  | .str s => .ok s
  | .brokenStr s => .ok s
  | _ => .refuse .notText

/-- A byte offset. -/
def checkOffset (document : Json) : Checked Fault Nat :=
  match offsetOf document with
  | .ok n => .ok n
  | .error fault => .refuse (.offset fault)

/-- An item of a pair. -/
def pairItem (index : Nat) (item : Option Json) : Checked Fault Nat :=
  Checked.under (.item index) <|
    match item with
    | some value => checkOffset value
    | none => .refuse .missing

/-- The two offsets of a span; of a longer list no item is looked at. -/
def checkOffsets : Json → Checked Fault (Nat × Nat)
  | .arr items =>
      if 2 < items.length then .refuse (.tooManyItems items.length)
      else .both (pairItem 0 items[0]?) (pairItem 1 items[1]?)
  | _ => .refuse .notPair

/-- The span of two offsets. -/
def checkSpan (ends : Nat × Nat) : Checked Fault Span :=
  if h : ends.1 ≤ ends.2 then .ok ⟨ends.1, ends.2, h⟩
  else .refuse (.reversed ends.1 ends.2)

/-- The span of a location. -/
def checkLocation (document : Json) : Checked Fault Span :=
  ((members .location document).andThen (field "span" checkOffsets)).andThen checkSpan

/-- A diagnostic; members are checked in the order of its parts. -/
def checkDiagnostic (document : Json) : Checked Fault Diagnostic :=
  (members .diagnostic document).andThen fun members =>
    (Checked.both (field "category" checkText members)
      (.both (field "severity" checkText members)
        (.both (field "description" checkText members)
          (field "location" checkLocation members)))).map
      fun (category, label, description, span) => ⟨category, label, description, span⟩

/-- The diagnostics of a report. -/
def checkDiagnostics : Json → Checked Fault (List Diagnostic)
  | .arr items => .items checkDiagnostic items
  | _ => .refuse .notList

/-- The report that a document holds. -/
def decode (document : Json) : Checked Fault Report :=
  ((members .report document).andThen (field "diagnostics" checkDiagnostics)).map Report.mk

end LintBridge.Report
