import LintBridge.Decimal.Integer
import LintBridge.Decimal.Numeral
import LintBridge.Json

/-!
Offsets in a report, read generously: a whole number, a truth value, a number without fraction, or a
text that spells a whole number.

Such a text may have white space around, a sign, zeros in front, single underscores between digits,
and a point with zeros only at its end. A minus sign may also stand behind the zeros.
-/

namespace LintBridge.Report

/-- Why a value is no offset. -/
inductive OffsetFault where
  | notWhole
  | unreadable
  | tooLarge
  | fraction
  | notFinite
  | brokenText
  | negative
deriving DecidableEq, Repr

def OffsetFault.message : OffsetFault → String
  | .notWhole => "Input should be a valid integer"
  | .unreadable => "Input should be a valid integer, unable to parse string as an integer"
  | .tooLarge => "Unable to parse input string as an integer, exceeded maximum size"
  | .fraction => "Input should be a valid integer, got a number with a fractional part"
  | .notFinite => "Input should be a finite number"
  | .brokenText =>
      "Input should be a valid string, unable to parse raw data as a unicode string"
  | .negative => "Input should be greater than or equal to 0"

/-- The numeral without the zeros in front, with one zero left if there is nothing else before the
end or a point. Underscores among the zeros go with them. -/
def dropLeadingZeros? : List Char → Option (List Char)
  | [] => none
  | c :: more =>
      if c = '0' then
        let isLeading (c : Char) : Bool := c == '0' || c == '_'
        let last := ((c :: more).takeWhile isLeading).getLast?.toList
        match more.dropWhile isLeading with
        | [] => some last
        | next :: rest =>
            if next = '.' then some (last ++ next :: rest)
            else if next = '-' ∨ next.isDigit then some (next :: rest)
            else none
      else if c.isDigit then some (c :: more)
      else none

/-- The numeral without a point and zeros at its end. -/
def dropZeroFraction (cs : List Char) : List Char :=
  match cs.dropWhile (· != '.') with
  | _ :: '0' :: zeros => if zeros.all (· == '0') then cs.takeWhile (· != '.') else cs
  | _ => cs

/-- The numeral without the underscores in it, none of which stands at an end or beside another. -/
def dropUnderscores? (cs : List Char) : Option (List Char) :=
  if Decimal.wellSeparated cs then some (cs.filter (· != '_')) else none

/-- The digits of a numeral without ornaments: no zeros in front, no underscores, no point. -/
def plainDigits? (numeral : List Char) : Option (List Char) :=
  (dropLeadingZeros? numeral).bind fun rest => dropUnderscores? (dropZeroFraction rest)

/-- A text as a numeral without ornaments: a minus sign perhaps, and digits. -/
def plainNumeral? (cs : List Char) : Option (List Char) :=
  match Text.trimSpace cs with
  | '+' :: '-' :: _ => none
  | '+' :: rest => plainDigits? rest
  | '-' :: rest => (plainDigits? rest).map ('-' :: ·)
  | rest => plainDigits? rest

/-- The size of a whole number by its digits: at least one, at most `Decimal.maxDigits`, and no zero
in front of others. -/
def sizeOfDigits? (digits : List Char) : Option Nat :=
  if digits ≠ [] ∧ digits.length ≤ Decimal.maxDigits ∧ digits.all Char.isDigit ∧
      (digits.head? = some '0' → digits = ['0']) then
    some (Decimal.digitsValue digits)
  else none

/-- The whole number of a numeral without ornaments. -/
def wholeOfNumeral? : List Char → Option Int
  | '-' :: digits => (sizeOfDigits? digits).map fun size => -(size : Int)
  | digits => (sizeOfDigits? digits).map fun size => (size : Int)

/-- Whether a text starts with a numeral of more than `Decimal.maxDigits` digits. -/
def isOversized (cs : List Char) : Bool :=
  let body := if cs.head? = some '-' then cs.drop 1 else cs
  body.head? != some '0' && Decimal.maxDigits < (body.takeWhile Char.isDigit).length

/-- The whole number that a text spells. -/
def wholeOfText (cs : List Char) : Except OffsetFault Int :=
  if isOversized cs then .error .tooLarge
  else
    match (plainNumeral? cs).bind wholeOfNumeral? with
    | some n => .ok n
    | none => .error .unreadable

/-- The whole number that a floating-point number is; it must fit 64 bits with sign. -/
def wholeOfReal (x : Decimal.Binary64) : Except OffsetFault Int :=
  if !x.isFinite then .error .notFinite
  else
    match x.toInt? with
    | none => .error .fraction
    | some n => if -Int.pow 2 63 < n ∧ n < Int.pow 2 63 then .ok n else .error .tooLarge

/-- The whole number that a document stands for. -/
def wholeOf : Json → Except OffsetFault Int
  | .int n => .ok n
  | .bool b => .ok (if b then 1 else 0)
  | .real x => wholeOfReal x
  | .str s => wholeOfText s.toList
  | .brokenStr _ => .error .brokenText
  | _ => .error .notWhole

/-- The offset that a document stands for. -/
def offsetOf (document : Json) : Except OffsetFault Nat :=
  match wholeOf document with
  | .ok n => if n < 0 then .error .negative else .ok n.toNat
  | .error fault => .error fault

end LintBridge.Report
