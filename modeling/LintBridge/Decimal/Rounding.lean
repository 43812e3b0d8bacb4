/-!
Rounding of a quotient to a whole number: to the nearest, and from the middle to the even one.
-/

namespace LintBridge.Decimal

/-- The whole number nearest to `num / den`; of two equally near ones the even one. -/
def roundDiv (num den : Nat) : Nat :=
  let below := num / den
  let twice := 2 * (num % den)
  if twice < den then below
  else if den < twice then below + 1
  else if below % 2 = 0 then below
  else below + 1

theorem roundDiv_mul_right {n den : Nat} (h : 0 < den) : roundDiv (n * den) den = n := by
  simp [roundDiv, Nat.mul_mod_left, Nat.mul_div_cancel n h, h]

theorem roundDiv_one (n : Nat) : roundDiv n 1 = n := by
  have h : roundDiv (n * 1) 1 = n := roundDiv_mul_right Nat.one_pos
  rwa [Nat.mul_one] at h

/-- Rounding moves to one of the two neighbours of the quotient. -/
theorem roundDiv_eq_or (num den : Nat) :
    roundDiv num den = num / den ∨ roundDiv num den = num / den + 1 := by
  simp only [roundDiv]
  split
  · exact .inl rfl
  · split
    · exact .inr rfl
    · split
      · exact .inl rfl
      · exact .inr rfl

/-- A part of a number is rounded to no more than the number. -/
theorem roundDiv_le (n parts : Nat) : roundDiv n (parts + 1) ≤ n := by
  cases parts with
  | zero => exact Nat.le_of_eq (roundDiv_one n)
  | succ parts =>
    cases n with
    | zero => simp [roundDiv]
    | succ n =>
      have hhalf : (n + 1) / (parts + 1 + 1) ≤ n :=
        Nat.lt_succ_iff.mp (Nat.div_lt_self (Nat.succ_pos n) (Nat.le_add_left 2 parts))
      rcases roundDiv_eq_or (n + 1) (parts + 1 + 1) with hbelow | habove
      · rw [hbelow]
        exact Nat.le_succ_of_le hhalf
      · rw [habove]
        exact Nat.succ_le_succ hhalf

end LintBridge.Decimal
