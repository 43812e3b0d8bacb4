import LintBridge.Text.Blank
import LintBridge.Text.Newline
import LintBridge.Text.Printable

/-!
Printable texts. A printable character ends no line, joins nothing, is no control character, and is
blank only if it is the space.
-/

namespace LintBridge.Text

/-- A text of printable characters. -/
def Printable (cs : List Char) : Prop :=
  ∀ c ∈ cs, isPrintable c = true

instance (cs : List Char) : Decidable (Printable cs) :=
  List.decidableBAll _ cs

theorem le_toNat_of_isPrintable {c : Char} (h : isPrintable c = true) : 0x20 ≤ c.toNat := by
  unfold isPrintable at h
  split at h
  · simp at h
    exact h.1
  · omega

/-- A printable character lies in no range of those that are not. -/
theorem not_between_of_isPrintable {c : Char} (h : isPrintable c = true) {low high : Nat}
    (hrange : (low, high) ∈ unprintable) (hlow : 0x80 ≤ low) :
    ¬ (low ≤ c.toNat ∧ c.toNat ≤ high) := by
  intro hc
  have hascii : ¬ c.toNat < 0x80 := by omega
  have hmem : inRanges unprintable c = true := inRanges_eq_true.mpr ⟨(low, high), hrange, hc⟩
  rw [isPrintable, if_neg hascii, hmem] at h
  cases h

/-- The spaces, joiners, separators and controls beyond ASCII are not printable. -/
theorem toNat_of_isPrintable {c : Char} (h : isPrintable c = true) :
    ¬ (0x80 ≤ c.toNat ∧ c.toNat ≤ 0xA0) ∧ ¬ (0x1680 ≤ c.toNat ∧ c.toNat ≤ 0x1680) ∧
      ¬ (0x1FFF ≤ c.toNat ∧ c.toNat ≤ 0x200F) ∧ ¬ (0x2028 ≤ c.toNat ∧ c.toNat ≤ 0x202F) ∧
      ¬ (0x205F ≤ c.toNat ∧ c.toNat ≤ 0x206F) ∧ ¬ (0x2FFC ≤ c.toNat ∧ c.toNat ≤ 0x3000) :=
  ⟨not_between_of_isPrintable h (by decide) (by decide),
    not_between_of_isPrintable h (by decide) (by decide),
    not_between_of_isPrintable h (by decide +kernel) (by decide),
    not_between_of_isPrintable h (by decide +kernel) (by decide),
    not_between_of_isPrintable h (by decide +kernel) (by decide),
    not_between_of_isPrintable h (by decide +kernel) (by decide)⟩

theorem isLineEnd_of_isPrintable {c : Char} (h : isPrintable c = true) : isLineEnd c = false := by
  have hlow := le_toNat_of_isPrintable h
  have hhigh := toNat_of_isPrintable h
  apply Bool.eq_false_iff.mpr
  intro hend
  simp only [isLineEnd, List.contains_cons, List.contains_nil, Bool.or_eq_true, Bool.and_eq_true,
    decide_eq_true_eq, beq_iff_eq, Bool.false_eq_true, or_false] at hend
  omega

/-- The only blank among the printable characters is the space. -/
theorem eq_space_of_isPrintable {c : Char} (h : isPrintable c = true) (hblank : isBlank c = true) :
    c = ' ' := by
  have hlow := le_toNat_of_isPrintable h
  have hhigh := toNat_of_isPrintable h
  have hspace : c.toNat = 0x20 := by
    simp only [isBlank, isSpace, Bool.or_eq_true, Bool.and_eq_true, decide_eq_true_eq,
      beq_iff_eq] at hblank
    omega
  exact Char.toNat_inj.mp hspace

/-- The printable characters of ASCII. -/
def isAscii (c : Char) : Bool :=
  0x20 ≤ c.toNat && c.toNat < 0x7F

theorem isPrintable_of_isAscii {c : Char} (h : isAscii c = true) : isPrintable c = true := by
  have hbound : c.toNat < 0x80 := by
    simp only [isAscii, Bool.and_eq_true, decide_eq_true_eq] at h
    omega
  rw [isPrintable, if_pos hbound]
  exact h

end LintBridge.Text
