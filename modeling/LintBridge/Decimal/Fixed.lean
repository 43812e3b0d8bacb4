import LintBridge.Decimal.Binary64

/-!
The text of a binary floating-point number with one digit after the point. The exact value is
rounded, so a number just below a middle goes down however it was written.
-/

namespace LintBridge.Decimal.Binary64

/-- The size of a finite number in tenths, rounded. -/
def tenths (mantissa : Nat) (exponent : Int) : Nat :=
  roundDiv (mantissa * Nat.pow 2 exponent.toNat * 10) (Nat.pow 2 (-exponent).toNat)

/-- The number with one digit after the point. -/
def toTenthsText : Binary64 → String
  | .nan => "nan"
  | .infinity negative => if negative then "-inf" else "inf"
  | .finite negative mantissa exponent =>
      let n := tenths mantissa exponent
      (if negative then "-" else "") ++ toString (n / 10) ++ "." ++ toString (n % 10)

end LintBridge.Decimal.Binary64
