import LintBridge.Text.Hexadecimal
import LintBridge.Text.Quoted
import Mathlib.Algebra.Group.Nat.Defs

/-!
Hexadecimal numerals, written and read. What is read consists of hexadecimal digits, and the
digits of a number below `16 ^ width` that `hex` writes are read as that number.
-/

namespace LintBridge.Text

/-- The value of hexadecimal digits behind others whose value is `n`. -/
def hexValueFrom? (n : Nat) (cs : List Char) : Option Nat :=
  cs.foldlM (fun n c => (hexDigit? c).map (n * 16 + ·)) n

theorem isHexDigit_of_hexValueFrom? {n value : Nat} {cs : List Char}
    (h : hexValueFrom? n cs = some value) : ∀ c ∈ cs, isHexDigit c = true := by
  induction cs generalizing n with
  | nil =>
    intro c hc
    cases hc
  | cons x cs ih =>
    cases hx : hexDigit? x with
    | none => simp [hexValueFrom?, hx] at h
    | some d =>
      have htail : hexValueFrom? (n * 16 + d) cs = some value := by
        simpa [hexValueFrom?, hx] using h
      intro c hc
      rcases List.mem_cons.mp hc with rfl | hc
      · simp [isHexDigit, hx]
      · exact ih htail c hc

/-- What is read as a hexadecimal numeral is made of hexadecimal digits. -/
theorem isHexDigit_of_hexValue? {value : Nat} {cs : List Char} (h : hexValue? cs = some value) :
    ∀ c ∈ cs, isHexDigit c = true :=
  isHexDigit_of_hexValueFrom? h

theorem hexValueFrom?_append (n : Nat) (front back : List Char) :
    hexValueFrom? n (front ++ back) = (hexValueFrom? n front).bind fun m => hexValueFrom? m back :=
  List.foldlM_append

theorem hexDigit?_digitChar {d : Nat} (h : d < 16) : hexDigit? (Nat.digitChar d) = some d :=
  (by decide : ∀ d < 16, hexDigit? (Nat.digitChar d) = some d) d h

theorem hexValueFrom?_digitChar (n : Nat) {d : Nat} (h : d < 16) :
    hexValueFrom? n [Nat.digitChar d] = some (n * 16 + d) := by
  simp [hexValueFrom?, hexDigit?_digitChar h]

/-- The digits of a number are read as it, behind a zero. -/
theorem hexValueFrom?_toDigits (n : Nat) : hexValueFrom? 0 (Nat.toDigits 16 n) = some n := by
  induction n using Nat.strongRecOn with
  | ind n ih =>
    rw [Nat.toDigits_eq_if (by decide)]
    split
    · next hlt => rw [hexValueFrom?_digitChar 0 hlt, Nat.zero_mul, Nat.zero_add]
    · next hge =>
      have hmod : n % 16 < 16 := Nat.mod_lt n (by decide)
      rw [hexValueFrom?_append, ih (n / 16) (by omega), Option.bind_some,
        hexValueFrom?_digitChar _ hmod, Nat.div_add_mod']

theorem hexValueFrom?_zeros (count : Nat) (cs : List Char) :
    hexValueFrom? 0 (List.replicate count '0' ++ cs) = hexValueFrom? 0 cs := by
  induction count with
  | zero => rfl
  | succ count ih =>
    rw [← ih]
    rfl

/-- What `hex` writes is read as the number that it was written for. -/
theorem hexValue?_hex (width n : Nat) : hexValue? (hex width n) = some n := by
  have hread : hexValueFrom? 0 (hex width n) = some n := by
    rw [hex, hexValueFrom?_zeros, hexValueFrom?_toDigits]
  exact hread

theorem length_hex {width n : Nat} (hw : 0 < width) (h : n < 16 ^ width) :
    (hex width n).length = width := by
  have hle := (Nat.length_toDigits_le_iff (by decide) hw).mpr h
  simp only [hex, List.length_append, List.length_replicate]
  omega

end LintBridge.Text
