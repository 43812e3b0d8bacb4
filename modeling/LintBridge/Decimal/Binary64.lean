import LintBridge.Decimal.Rounding

/-!
Binary floating-point numbers of 64 bits, as exact values.

A finite number is `mantissa * 2 ^ exponent` with a mantissa below `2 ^ 53`. `ofRatio` and
`ofDecimal` give the number nearest to an exact quotient or decimal fraction, ties to the even
mantissa, so all that is said of a number here is said in whole numbers.
-/

namespace LintBridge.Decimal

/-- A binary floating-point number. -/
inductive Binary64 where
  | nan
  | infinity (negative : Bool)
  | finite (negative : Bool) (mantissa : Nat) (exponent : Int)
deriving DecidableEq, Repr

namespace Binary64

/-- The exponent of the smallest number above zero, and of zero itself. -/
def minExponent : Int := -1074

/-- The exponent of the largest finite numbers. -/
def maxExponent : Int := 971

/-- Mantissas stay below this bound; all but the smallest numbers use at least half of it. -/
def mantissaBound : Nat := Nat.pow 2 53

/-- Zero, with a sign. -/
def zero (negative : Bool) : Binary64 :=
  .finite negative 0 minExponent

/-- The quotient `num / den` in units of `2 ^ unit`, rounded. -/
def inUnits (num den : Nat) (unit : Int) : Nat :=
  roundDiv (num * Nat.pow 2 (-unit).toNat) (den * Nat.pow 2 unit.toNat)

/-- The greatest `k` with `2 ^ k ≤ num / den`. -/
def floorLog (num den : Nat) : Int :=
  let guess : Int := (Nat.log2 num : Int) - Nat.log2 den
  if den * Nat.pow 2 guess.toNat ≤ num * Nat.pow 2 (-guess).toNat then guess else guess - 1

/-- A mantissa that reached its bound moves up one exponent; past the last exponent there is only
infinity. -/
def normalize (negative : Bool) (mantissa : Nat) (exponent : Int) : Binary64 :=
  let moved := decide (mantissa = mantissaBound)
  let m := if moved then mantissaBound / 2 else mantissa
  let e := if moved then exponent + 1 else exponent
  if maxExponent < e then .infinity negative else .finite negative m e

/-- The number nearest to `num / den`. -/
def ofRatio (negative : Bool) (num den : Nat) : Binary64 :=
  if num = 0 then zero negative
  else
    let unit := max (floorLog num den - 52) minExponent
    normalize negative (inUnits num den unit) unit

/-- The number nearest to `digits * 10 ^ exponent`. Exponents far out of range are settled first, so
that no power is larger than the digits call for. -/
def ofDecimal (negative : Bool) (digits : Nat) (exponent : Int) : Binary64 :=
  if digits = 0 then zero negative
  else if 400 < exponent then .infinity negative
  else if exponent + (Nat.log2 digits / 3 + 1 : Nat) < -400 then zero negative
  else ofRatio negative (digits * Nat.pow 10 exponent.toNat) (Nat.pow 10 (-exponent).toNat)

/-- The number nearest to a whole number. -/
def ofInt (n : Int) : Binary64 :=
  ofRatio (decide (n < 0)) n.natAbs 1

/-- Whether a number is above zero; no statement about order holds of a number that is none. -/
def isPositive : Binary64 → Bool
  | .nan => false
  | .infinity negative => !negative
  | .finite negative mantissa _ => !negative && mantissa != 0

/-- Whether a number is neither infinite nor none at all. -/
def isFinite : Binary64 → Bool
  | .finite .. => true
  | _ => false

/-- The whole number that a finite number without fraction is. -/
def toInt? : Binary64 → Option Int
  | .finite negative mantissa exponent =>
      let scaled := mantissa * Nat.pow 2 exponent.toNat
      let unit := Nat.pow 2 (-exponent).toNat
      if scaled % unit = 0 then
        some (if negative then -(scaled / unit : Nat) else (scaled / unit : Nat))
      else none
  | _ => none

end Binary64
end LintBridge.Decimal
