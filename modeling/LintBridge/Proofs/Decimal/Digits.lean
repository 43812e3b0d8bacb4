import LintBridge.Decimal.Numeral
import Mathlib.Algebra.Group.Nat.Defs

/-!
Decimal digits and their value. A numeral without a zero in front has as many digits as its value
calls for, so a bound on the number of digits is a bound on the value.
-/

namespace LintBridge.Decimal

theorem digitsValue_eq_ofDigitChars (digits : List Char) :
    digitsValue digits = Nat.ofDigitChars 10 digits 0 := by
  rw [digitsValue, Nat.ofDigitChars_eq_foldl]
  congr
  funext n c
  rw [Nat.mul_comm]

theorem digitsValue_toDigits (n : Nat) : digitsValue (Nat.toDigits 10 n) = n := by
  rw [digitsValue_eq_ofDigitChars, Nat.ofDigitChars_ten_toDigits]

theorem digitsValue_cons (d : Char) (digits : List Char) :
    digitsValue (d :: digits) =
      10 ^ digits.length * (d.toNat - '0'.toNat) + digitsValue digits := by
  rw [digitsValue_eq_ofDigitChars, digitsValue_eq_ofDigitChars, Nat.ofDigitChars_cons,
    Nat.ofDigitChars_eq_ofDigitChars_zero, Nat.mul_zero, Nat.zero_add]

theorem toNat_of_isDigit {c : Char} (h : c.isDigit = true) : 48 ≤ c.toNat ∧ c.toNat ≤ 57 := by
  simpa [Char.isDigit, UInt32.le_iff_toNat_le] using h

theorem digitsValue_lt {digits : List Char} (h : ∀ c ∈ digits, c.isDigit = true) :
    digitsValue digits < 10 ^ digits.length := by
  induction digits with
  | nil => decide
  | cons d digits ih =>
    have htail := ih fun c hc => h c (List.mem_cons_of_mem d hc)
    have hd := toNat_of_isDigit (h d List.mem_cons_self)
    have hmul : 10 ^ digits.length * (d.toNat - '0'.toNat) ≤ 10 ^ digits.length * 9 :=
      Nat.mul_le_mul_left _ (by simp; omega)
    rw [digitsValue_cons, List.length_cons, Nat.pow_succ]
    omega

/-- Without a zero in front the first digit alone reaches the place it stands at. -/
theorem le_digitsValue {d : Char} {digits : List Char} (hd : d.isDigit = true) (hz : d ≠ '0') :
    10 ^ digits.length ≤ digitsValue (d :: digits) := by
  have hd' := toNat_of_isDigit hd
  have hne : d.toNat ≠ 48 := fun h => hz (Char.toNat_inj.mp h)
  have hmul : 10 ^ digits.length * 1 ≤ 10 ^ digits.length * (d.toNat - '0'.toNat) :=
    Nat.mul_le_mul_left _ (by simp; omega)
  rw [digitsValue_cons]
  omega

/-- A numeral that starts with a zero only if it is one has at most `k` digits exactly if its value
is below `10 ^ k`. -/
theorem digitsValue_lt_pow_iff {digits : List Char} {k : Nat}
    (h : ∀ c ∈ digits, c.isDigit = true) (hz : digits.head? = some '0' → digits = ['0'])
    (hk : 0 < k) : digitsValue digits < 10 ^ k ↔ digits.length ≤ k := by
  constructor
  · intro hlt
    cases digits with
    | nil => exact Nat.zero_le k
    | cons d digits =>
      by_cases hd : d = '0'
      · rw [hz (by rw [hd]; rfl)]
        exact hk
      · have hle : 10 ^ digits.length ≤ digitsValue (d :: digits) :=
          le_digitsValue (h d List.mem_cons_self) hd
        exact (Nat.pow_lt_pow_iff_right (by decide)).mp (Nat.lt_of_le_of_lt hle hlt)
  · intro hle
    exact Nat.lt_of_lt_of_le (digitsValue_lt h) (Nat.pow_le_pow_right (by decide) hle)

theorem isDigit_of_mem_toDigits {n : Nat} : ∀ c ∈ Nat.toDigits 10 n, c.isDigit = true :=
  fun _ => Nat.isDigit_of_mem_toDigits (by decide) (by decide)

/-- The digits of a number start with a zero only if the number is zero: without it there would be
enough of them left. -/
theorem toDigits_head {n : Nat} (h : (Nat.toDigits 10 n).head? = some '0') :
    Nat.toDigits 10 n = ['0'] := by
  cases hd : Nat.toDigits 10 n with
  | nil => exact absurd hd Nat.toDigits_ne_nil
  | cons d digits =>
    rw [hd] at h
    obtain rfl := Option.some.inj h
    cases digits with
    | nil => rfl
    | cons e more =>
      have hdigits : ∀ c ∈ e :: more, c.isDigit = true := by
        intro c hc
        refine isDigit_of_mem_toDigits (n := n) c ?_
        rw [hd]
        exact List.mem_cons_of_mem _ hc
      have hvalue : digitsValue ('0' :: e :: more) = digitsValue (e :: more) := by
        simp [digitsValue_cons '0']
      have hlt := digitsValue_lt hdigits
      rw [← hvalue, ← hd, digitsValue_toDigits] at hlt
      have hle := (Nat.length_toDigits_le_iff (by decide) (Nat.succ_pos _)).mpr hlt
      rw [hd] at hle
      exact absurd hle (Nat.not_succ_le_self _)

/-! ### Runs at the start of a text -/

/-- A run of characters of a class is taken up to the first character that is not of it. -/
theorem takeWhile_append_of_stop {p : Char → Bool} {taken rest : List Char}
    (ht : ∀ c ∈ taken, p c = true) (hr : rest.head?.any p = false) :
    (taken ++ rest).takeWhile p = taken ∧ (taken ++ rest).dropWhile p = rest := by
  have hrest : rest.takeWhile p = [] ∧ rest.dropWhile p = rest := by
    cases rest with
    | nil => exact ⟨rfl, rfl⟩
    | cons c rest =>
      have hc : ¬ p c = true := by simpa using hr
      exact ⟨List.takeWhile_cons_of_neg hc, List.dropWhile_cons_of_neg hc⟩
  rw [List.takeWhile_append_of_pos ht, List.dropWhile_append_of_pos ht, hrest.1, hrest.2,
    List.append_nil]
  exact ⟨rfl, rfl⟩

/-- What is taken of a text is of the class, and the rest does not start with a character of it. -/
theorem takeWhile_dropWhile_stop (p : Char → Bool) (cs : List Char) :
    cs = cs.takeWhile p ++ cs.dropWhile p ∧ (∀ c ∈ cs.takeWhile p, p c = true) ∧
      (cs.dropWhile p).head?.any p = false := by
  refine ⟨List.takeWhile_append_dropWhile.symm, List.all_eq_true.mp List.all_takeWhile, ?_⟩
  cases hrest : cs.dropWhile p with
  | nil => rfl
  | cons c rest =>
    have hnot := List.head_dropWhile_not p (l := cs) (by simp [hrest])
    simpa [hrest] using hnot

end LintBridge.Decimal
