import LintBridge.Toml.Value
import LintBridge.Decimal.Integer
import LintBridge.Decimal.Numeral
import LintBridge.Text.Hexadecimal

/-!
Numbers, dates and times of TOML.

Digits may be grouped by single underscores. Hexadecimal, octal and binary whole numbers have no
sign; decimal ones have at most `Decimal.maxDigits` digits. A date must be one of the calendar.
-/

namespace LintBridge.Toml

/-! ### Dates and times -/

/-- A run of exactly `count` decimal digits, by value. -/
def takeDigits? (count : Nat) (cs : List Char) : Option (Nat × List Char) :=
  let digits := cs.take count
  if digits.length = count && digits.all Char.isDigit then
    some (Decimal.digitsValue digits, cs.drop count)
  else none

/-- A run of `count` decimal digits whose value is in a range. -/
def takeRange? (count low high : Nat) (cs : List Char) : Option (Nat × List Char) := do
  let (n, rest) ← takeDigits? count cs
  if low ≤ n ∧ n ≤ high then some (n, rest) else none

/-- The text behind one given character. -/
def takeChar? (mark : Char) : List Char → Option (List Char)
  | c :: rest => if c = mark then some rest else none
  | [] => none

/-- Skips a point with digits behind it. -/
def skipFraction (cs : List Char) : List Char :=
  match cs with
  | '.' :: c :: rest => if c.isDigit then rest.dropWhile Char.isDigit else cs
  | _ => cs

/-- The text behind a time of day. -/
def skipTime? (cs : List Char) : Option (List Char) := do
  let (_, rest) ← takeRange? 2 0 23 cs
  let (_, rest) ← takeRange? 2 0 59 (← takeChar? ':' rest)
  let (_, rest) ← takeRange? 2 0 59 (← takeChar? ':' rest)
  return skipFraction rest

/-- The text behind an offset from universal time. -/
def skipOffset? (cs : List Char) : Option (List Char) :=
  match cs with
  | c :: rest =>
      if c = 'Z' || c = 'z' then some rest
      else if c = '+' || c = '-' then do
        let (_, rest) ← takeRange? 2 0 23 rest
        let (_, rest) ← takeRange? 2 0 59 (← takeChar? ':' rest)
        return rest
      else none
  | [] => none

/-- The text behind the time that may follow a date. -/
def skipTimeOfDate (cs : List Char) : List Char :=
  match cs with
  | c :: rest =>
      if c = 'T' || c = 't' || c = ' ' then
        match skipTime? rest with
        | some after => (skipOffset? after).getD after
        | none => cs
      else cs
  | [] => cs

/-- A date by year, month and day, as far as each alone is in range. -/
def takeDate? (cs : List Char) : Option ((Nat × Nat × Nat) × List Char) := do
  let (year, rest) ← takeDigits? 4 cs
  let (month, rest) ← takeRange? 2 1 12 (← takeChar? '-' rest)
  let (day, rest) ← takeRange? 2 1 31 (← takeChar? '-' rest)
  return ((year, month, day), rest)

/-- The rule of the calendar: every fourth year, of full centuries every fourth one. -/
def isLeapYear (year : Nat) : Bool :=
  year % 4 == 0 && (year % 100 != 0 || year % 400 == 0)

/-- The number of days of a month. -/
def daysInMonth (year month : Nat) : Nat :=
  if month = 2 then if isLeapYear year then 29 else 28
  else if month = 4 ∨ month = 6 ∨ month = 9 ∨ month = 11 then 30
  else 31

/-- Whether a date is one of the calendar, whose first year is the year 1. -/
def isCalendarDate (year month day : Nat) : Bool :=
  1 ≤ year && day ≤ daysInMonth year month

/-- The characters of `cs` before the rest `after` of it, as a moment. -/
def momentBefore (cs after : List Char) : Value :=
  .moment (String.ofList (cs.take (cs.length - after.length)))

/-- A date, a time or both, if the text starts with one. -/
def readMoment? (cs : List Char) : Option (Except Stop (Value × List Char)) :=
  match takeDate? cs with
  | some ((year, month, day), rest) =>
      let after := skipTimeOfDate rest
      if isCalendarDate year month day then some (.ok (momentBefore cs after, after))
      else some (.error (.broken .invalidDate cs.length))
  | none => (skipTime? cs).map fun after => .ok (momentBefore cs after, after)

/-! ### Numbers -/

/-- The digits that go on a run of digits, without the underscores between them. -/
def takeMoreDigits (isDigit : Char → Bool) : List Char → List Char × List Char
  | '_' :: c :: rest =>
      if isDigit c then
        let (digits, after) := takeMoreDigits isDigit rest
        (c :: digits, after)
      else ([], '_' :: c :: rest)
  | c :: rest =>
      if isDigit c then
        let (digits, after) := takeMoreDigits isDigit rest
        (c :: digits, after)
      else ([], c :: rest)
  | [] => ([], [])

/-- A run of digits, the first of which has no underscore before it; it may be empty. -/
def takeGrouped (isDigit : Char → Bool) (cs : List Char) : List Char × List Char :=
  match cs with
  | c :: _ => if isDigit c then takeMoreDigits isDigit cs else ([], cs)
  | [] => ([], [])

/-- The base that a letter behind a zero announces. -/
def base? : Char → Option Nat
  | 'x' => some 16
  | 'o' => some 8
  | 'b' => some 2
  | _ => none

/-- Whether a character is a digit of a base up to sixteen. -/
def isDigitOf (base : Nat) (c : Char) : Bool :=
  (Text.hexDigit? c).any (· < base)

/-- A whole number of another base than ten. -/
def readBased? : List Char → Option (Value × List Char)
  | '0' :: letter :: rest => do
      let base ← base? letter
      let (digits, after) := takeGrouped (isDigitOf base) rest
      if digits = [] then none
      else
        let values := digits.filterMap Text.hexDigit?
        some (.int (values.foldl (fun n d => n * base + d) 0 : Nat), after)
  | _ => none

/-- The fraction of a number; without a digit behind the point nothing is taken. -/
def takeFraction (cs : List Char) : List Char × List Char :=
  match cs with
  | '.' :: rest =>
      let (digits, after) := takeGrouped Char.isDigit rest
      if digits = [] then ([], cs) else (digits, after)
  | _ => ([], cs)

/-- The exponent of a number; without a digit nothing is taken. -/
def takeExponent (cs : List Char) : Int × List Char :=
  match cs with
  | mark :: rest =>
      if mark = 'e' || mark = 'E' then
        let (negative, body) := Decimal.takeSign rest
        let (digits, after) := takeGrouped Char.isDigit body
        if digits = [] then (0, cs)
        else
          let size : Int := Decimal.digitsValue digits
          (if negative then -size else size, after)
      else (0, cs)
  | [] => (0, cs)

/-- A decimal number, if the text starts with one. With a fraction or an exponent it is a real
number, otherwise a whole one. -/
def readDecimal? (cs : List Char) : Option (Except Stop (Value × List Char)) :=
  let (negative, body) := Decimal.takeSign cs
  let (whole, afterWhole) :=
    match body with
    | '0' :: rest => (['0'], rest)
    | _ => takeGrouped Char.isDigit body
  if whole = [] then none
  else
    let (fraction, afterFraction) := takeFraction afterWhole
    let (exponent, after) := takeExponent afterFraction
    if after.length = afterWhole.length then
      if Decimal.maxDigits < whole.length then some (.error (.numeralTooLong whole.length))
      else
        let size : Int := Decimal.digitsValue whole
        some (.ok (.int (if negative then -size else size), after))
    else
      let numeral : Decimal.Numeral := ⟨negative, whole, fraction, exponent⟩
      some (.ok (.real numeral.toBinary64, after))

/-- The values that are spelled with one word. -/
def wordNumbers : List (List Char × Decimal.Binary64) :=
  [ ("inf".toList, .infinity false),
    ("nan".toList, .nan),
    ("-inf".toList, .infinity true),
    ("+inf".toList, .infinity false),
    ("-nan".toList, .nan),
    ("+nan".toList, .nan) ]

/-- A number that is spelled with one word. -/
def readWordNumber? (cs : List Char) : Option (Value × List Char) :=
  wordNumbers.findSome? fun (word, number) =>
    (word.isPrefixOf? cs).map fun after => (.real number, after)

/-- A moment or a number, if the text starts with one. -/
def readNumeric? (cs : List Char) : Option (Except Stop (Value × List Char)) :=
  match readMoment? cs with
  | some reading => some reading
  | none =>
      match readBased? cs with
      | some found => some (.ok found)
      | none =>
          match readDecimal? cs with
          | some reading => some reading
          | none => (readWordNumber? cs).map .ok

end LintBridge.Toml
