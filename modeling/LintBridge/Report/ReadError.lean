import LintBridge.Json.Reader
import LintBridge.Report.Decode
import LintBridge.Text.Blank

/-!
Why output cannot be taken as a report.

Malformed output is told by a reason and an excerpt. The two limits of the JSON reader are errors of
their own.
-/

namespace LintBridge.Report

/-- What is wrong with malformed output. -/
inductive Reason where
  | noDocument
  | badJson (flaw : Json.Flaw) (position : Nat)
  | emptyArray
  | mismatched (mismatches : List (Mismatch Fault))
  | notText (reason : String)
deriving DecidableEq, Repr

def Reason.text : Reason → String
  | .noDocument => "no JSON document found"
  | .badJson flaw position => "invalid JSON (" ++ flaw.message ++ s!" at position {position})"
  | .emptyArray => "top-level array is empty"
  | .mismatched mismatches =>
      "unexpected report schema (" ++ toString mismatches.length ++ " error(s))"
  | .notText reason => "output is not valid text (" ++ reason ++ ")"

/-- Why output is no report. -/
inductive ReadError where
  | malformed (reason : Reason) (output : String)
  | numeralTooLong (digits : Nat)
  | tooDeep (container : Json.Container)
deriving DecidableEq, Repr

/-- The most characters of output that are shown. -/
def excerptLimit : Nat := 200

/-- The start of some output without blanks around. -/
def excerpt (output : List Char) : List Char :=
  let shown := Text.trim output
  if excerptLimit < shown.length then shown.take excerptLimit ++ ['…']
  else if shown = [] then "<empty>".toList
  else shown

/-- The text that tells of malformed output. -/
def malformedMessage (reason output : String) : String :=
  "Could not interpret Biome output: " ++ reason ++ " (output: " ++
    String.ofList (excerpt output.toList) ++ ")"

/-- The text that tells of a document that nests too deep. -/
def tooDeepMessage (container : Json.Container) : String :=
  let kind := match container with
    | .array => "array"
    | .object => "object"
  "maximum recursion depth exceeded while decoding a JSON " ++ kind ++ " from a unicode string"

def ReadError.message : ReadError → String
  | .malformed reason output => malformedMessage reason.text output
  | .numeralTooLong digits => Decimal.tooLongMessage digits
  | .tooDeep container => tooDeepMessage container

end LintBridge.Report
