import LintBridge.Text.Blank
import LintBridge.Text.DecimalDigit
import LintBridge.Text.Quoted

/-!
Whole numbers in text, read generously: white space around, a sign, the decimal digits of any
script, and single underscores between digits.

A numeral of more than `maxDigits` digits is refused before anything after it is looked at.
-/

namespace LintBridge.Decimal

/-- The most digits that a numeral may have. -/
def maxDigits : Nat := 4300

/-- Why a text is no whole number. -/
inductive IntegerError where
  | malformed (text : String)
  | tooLong (digits : Nat)
deriving DecidableEq, Repr

/-- The text that refuses a numeral of too many digits. -/
def tooLongMessage (digits : Nat) : String :=
  s!"Exceeds the limit ({maxDigits} digits) for integer string conversion: value has " ++
    s!"{digits} digits; use sys.set_int_max_str_digits() to increase the limit"

/-- The offending text is quoted, and of the quoted form at most 200 characters are shown. -/
def IntegerError.message : IntegerError → String
  | .malformed text =>
      "invalid literal for int() with base 10: " ++
        String.ofList ((Text.quote text.toList).take 200)
  | .tooLong digits => tooLongMessage digits

/-- Whether every underscore stands between two other characters, and there is a character. -/
def wellSeparated : List Char → Bool
  | [] => false
  | [c] => c != '_'
  | '_' :: _ => false
  | _ :: '_' :: rest => wellSeparated rest
  | _ :: c :: rest => wellSeparated (c :: rest)

/-- The value of digits of any script, the most significant first; other characters count for
nothing. -/
def scriptValue (cs : List Char) : Nat :=
  (cs.filterMap Text.digitValue?).foldl (fun n d => n * 10 + d) 0

/-- The whole number that a text spells. -/
def readInteger (cs : List Char) : Except IntegerError Int :=
  let body := cs.dropWhile Text.isSpace
  let negative := body.head? = some '-'
  let signed := negative || body.head? = some '+'
  let unsigned := if signed then body.drop 1 else body
  let inNumeral (c : Char) : Bool := Text.isDecimalDigit c || c == '_'
  let numeral := unsigned.takeWhile inNumeral
  let digits := (numeral.filter Text.isDecimalDigit).length
  if !wellSeparated numeral then .error (.malformed (String.ofList cs))
  else if maxDigits < digits then .error (.tooLong digits)
  else if !(unsigned.dropWhile inNumeral).all Text.isSpace then
    .error (.malformed (String.ofList cs))
  else
    let size := scriptValue numeral
    .ok (if negative then -(size : Int) else size)

end LintBridge.Decimal
