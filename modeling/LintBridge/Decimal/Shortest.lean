import LintBridge.Decimal.Binary64

/-!
The shortest text of a binary floating-point number: the fewest decimal digits that read back as the
number, and of those the nearest to it.

For each count of digits the only candidates are the two neighbours of the number among the decimal
fractions with that many digits: if any fraction of the grid reads back, one of these does.
-/

namespace LintBridge.Decimal.Binary64

/-- A decimal fraction `digits * 10 ^ exponent`. -/
structure Fraction where
  digits : Nat
  exponent : Int
deriving DecidableEq, Repr

/-- The least `k` with `num / den < 10 ^ k`, for a positive quotient in the range of the numbers. -/
def decimalPlace (num den : Nat) : Int :=
  let guess := floorLog num den * 30103 / 100000 - 1
  let above (k : Int) : Bool := num * Nat.pow 10 (-k).toNat < den * Nat.pow 10 k.toNat
  if above guess then guess
  else if above (guess + 1) then guess + 1
  else if above (guess + 2) then guess + 2
  else guess + 3

/-- A candidate that reads back among the fractions with `count` digits of the number
`mantissa * 2 ^ exponent`, which lies below `10 ^ place`. -/
def candidate? (mantissa : Nat) (exponent place : Int) (count : Nat) : Option Fraction :=
  let unit := place - count
  let num := mantissa * Nat.pow 2 exponent.toNat * Nat.pow 10 (-unit).toNat
  let den := Nat.pow 2 (-exponent).toNat * Nat.pow 10 unit.toNat
  let below := num / den
  let readsBack (n : Nat) : Bool := ofDecimal false n unit = .finite false mantissa exponent
  match readsBack below, readsBack (below + 1) with
  | true, true => some ⟨roundDiv num den, unit⟩
  | true, false => some ⟨below, unit⟩
  | false, true => some ⟨below + 1, unit⟩
  | false, false => none

/-- The shortest fraction that reads back. Seventeen digits are always enough. -/
def shortest (mantissa : Nat) (exponent : Int) : Fraction :=
  let place :=
    decimalPlace (mantissa * Nat.pow 2 exponent.toNat) (Nat.pow 2 (-exponent).toNat)
  let counts := (List.range 17).map (· + 1)
  (counts.findSome? (candidate? mantissa exponent place)).getD ⟨mantissa, exponent⟩

/-- Digits of a fraction without the zeros at their end, and the place of the decimal point: the
value is `0.digits * 10 ^ place`. -/
def Fraction.toDigits (f : Fraction) : List Char × Int :=
  let all := Nat.toDigits 10 f.digits
  ((all.reverse.dropWhile (· == '0')).reverse, f.exponent + all.length)

/-- The text of a number above zero. The point is written where the leading digit counts between
`10 ^ -4` and `10 ^ 15`; beyond, an exponent of at least two digits is. -/
def digitsText (digits : List Char) (place : Int) : List Char :=
  if place ≤ -4 ∨ 16 < place then
    let exponent := place - 1
    let size := Nat.toDigits 10 exponent.natAbs
    let point := if digits.length = 1 then [] else '.' :: digits.drop 1
    digits.take 1 ++ point ++ ['e', if exponent < 0 then '-' else '+'] ++
      List.replicate (2 - size.length) '0' ++ size
  else if place ≤ 0 then
    ['0', '.'] ++ List.replicate (-place).toNat '0' ++ digits
  else if digits.length ≤ place.toNat then
    digits ++ List.replicate (place.toNat - digits.length) '0' ++ ['.', '0']
  else
    digits.take place.toNat ++ '.' :: digits.drop place.toNat

/-- The shortest text that reads back as the number. -/
def toText : Binary64 → String
  | .nan => "nan"
  | .infinity negative => if negative then "-inf" else "inf"
  | .finite negative mantissa exponent =>
      let size :=
        if mantissa = 0 then ['0', '.', '0']
        else
          let (digits, place) := (shortest mantissa exponent).toDigits
          digitsText digits place
      String.ofList (if negative then '-' :: size else size)

end LintBridge.Decimal.Binary64
