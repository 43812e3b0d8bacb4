import LintBridge.Decimal.Binary64

/-!
Decimal numerals: digits, a point and an exponent, as they are written in documents and settings.

`Numeral` is what a reader has taken apart; its value is exact, and `toBinary64` rounds it once.
`ofText?` reads a whole text as a number, the way settings spell one.
-/

namespace LintBridge.Decimal

/-- The value of digits from `0` to `9`, the most significant first. -/
def digitsValue (digits : List Char) : Nat :=
  digits.foldl (fun n c => n * 10 + (c.toNat - '0'.toNat)) 0

/-- A decimal numeral: its sign, the digits before and after the point, and the exponent. -/
structure Numeral where
  negative : Bool
  whole : List Char
  fraction : List Char
  exponent : Int
deriving DecidableEq, Repr

/-- The nearest binary floating-point number. -/
def Numeral.toBinary64 (n : Numeral) : Binary64 :=
  .ofDecimal n.negative (digitsValue (n.whole ++ n.fraction)) (n.exponent - n.fraction.length)

/-- A sign in front of a number, if there is one. -/
def takeSign : List Char → Bool × List Char
  | '-' :: rest => (true, rest)
  | '+' :: rest => (false, rest)
  | cs => (false, cs)

/-- An exponent: the letter, a sign perhaps, and at least one digit. Without it, the exponent is
zero and nothing is taken. -/
def takeExponent (cs : List Char) : Int × List Char :=
  match cs with
  | [] => (0, cs)
  | mark :: rest =>
      let (negative, body) := takeSign rest
      let digits := body.takeWhile Char.isDigit
      if (mark = 'e' ∨ mark = 'E') ∧ digits ≠ [] then
        let size : Int := digitsValue digits
        (if negative then -size else size, body.dropWhile Char.isDigit)
      else (0, cs)

/-- A whole text as a number: `inf`, `infinity` or `nan` in any case, or a decimal numeral with a
digit on either side of the point. -/
def Binary64.ofText? (cs : List Char) : Option Binary64 :=
  let (negative, body) := takeSign cs
  let word := body.map Char.toLower
  if word = "inf".toList ∨ word = "infinity".toList then some (.infinity negative)
  else if word = "nan".toList then some .nan
  else
    let whole := body.takeWhile Char.isDigit
    let afterWhole := body.dropWhile Char.isDigit
    let tail := match afterWhole with
      | '.' :: rest => rest
      | rest => rest
    let pointed := afterWhole.head? = some '.'
    let fraction := if pointed then tail.takeWhile Char.isDigit else []
    let afterFraction := if pointed then tail.dropWhile Char.isDigit else tail
    let (exponent, rest) := takeExponent afterFraction
    if rest = [] ∧ whole ++ fraction ≠ [] then
      some (Numeral.toBinary64 ⟨negative, whole, fraction, exponent⟩)
    else none

end LintBridge.Decimal
