import LintBridge.Terminal.Width
import LintBridge.Proofs.Text.Printable

/-!
The width of a text with spaces around it, and of a part of a text.

The width of a text is not the sum of the widths of its characters: an emoji selector widens the
character before it, and a joiner takes the character behind it away. So a space counts for one cell
in front of any text, but behind a text only if no joiner ends it. A text of printable ASCII is as
wide as it is long (`width_of_ascii`).
-/

namespace LintBridge.Terminal

theorem charWidth_space : charWidth ' ' = 1 := by
  decide +kernel

theorem selectable_space : Text.inRanges selectable ' ' = false := by
  decide +kernel

theorem widthAfter_cons {c : Char} (hjoiner : c ≠ '\u200d') (hselector : c ≠ '\ufe0f')
    (last : Option Char) (cs : List Char) :
    widthAfter last (c :: cs) =
      charWidth c + widthAfter (if charWidth c = 0 then last else some c) cs := by
  rw [widthAfter]
  all_goals simp [hjoiner, hselector]

/-- What is neither the last joiner nor one with a character behind it is no joiner. -/
theorem ne_joiner {c : Char} {rest : List Char} (hlone : c = '\u200d' → rest = [] → False)
    (hjoined : ∀ d more, c = '\u200d' → rest = d :: more → False) : c ≠ '\u200d' := by
  intro hc
  cases rest with
  | nil => exact hlone hc rfl
  | cons d more => exact hjoined d more hc rfl

/-- Behind a character that cannot be selected a text is as wide as behind none. -/
theorem widthAfter_of_unselectable {last : Option Char}
    (h : last.any (Text.inRanges selectable) = false) (cs : List Char) :
    widthAfter last cs = widthAfter none cs := by
  fun_induction widthAfter last cs with
  | case1 => rfl
  | case2 => rfl
  | case3 last c rest ih =>
    rw [widthAfter]
    exact ih h
  | case4 last rest ih =>
    rw [widthAfter, h]
    rfl
  | case5 last c rest hlone hjoined hselector width ih =>
    rw [widthAfter_cons (ne_joiner hlone hjoined) hselector]
    change charWidth c + _ = charWidth c + _
    by_cases hzero : charWidth c = 0
    · have hrest := ih (by rwa [if_pos hzero])
      rw [if_pos hzero] at hrest
      rw [if_pos hzero, if_pos hzero, hrest]
    · rw [if_neg hzero, if_neg hzero]

/-- A space takes one cell, and what stands in front of it no longer counts. -/
theorem widthAfter_space (last : Option Char) (cs : List Char) :
    widthAfter last (' ' :: cs) = 1 + width cs := by
  have hspace : (some ' ').any (Text.inRanges selectable) = false := selectable_space
  rw [widthAfter_cons (by decide) (by decide), charWidth_space]
  exact congrArg (1 + ·) (widthAfter_of_unselectable hspace cs)

theorem width_space (cs : List Char) : width (' ' :: cs) = 1 + width cs :=
  widthAfter_space none cs

theorem width_spaces_append (n : Nat) (cs : List Char) :
    width (List.replicate n ' ' ++ cs) = n + width cs := by
  induction n with
  | zero => simp
  | succ n ih =>
    rw [List.replicate_succ, List.cons_append, width_space, ih]
    omega

/-- If no joiner ends a text, a space behind it keeps the text behind the space apart. -/
theorem width_append_space {cs : List Char} (h : '\u200d' ∉ cs) (more : List Char) :
    width (cs ++ ' ' :: more) = width cs + (1 + width more) := by
  have hafter (last : Option Char) :
      widthAfter last (cs ++ ' ' :: more) = widthAfter last cs + (1 + width more) := by
    induction cs generalizing last with
    | nil =>
      rw [List.nil_append, widthAfter_space, widthAfter, Nat.zero_add]
    | cons c rest ih =>
      rw [List.mem_cons, not_or] at h
      by_cases hselector : c = '\ufe0f'
      · subst hselector
        rw [List.cons_append, widthAfter, widthAfter, ih h.2, Nat.add_assoc]
      · rw [List.cons_append, widthAfter_cons (Ne.symm h.1) hselector,
          widthAfter_cons (Ne.symm h.1) hselector, ih h.2, Nat.add_assoc]
  exact hafter none

theorem width_append_spaces {cs : List Char} (h : '\u200d' ∉ cs) (n : Nat) :
    width (cs ++ List.replicate n ' ') = width cs + n := by
  cases n with
  | zero => simp
  | succ n =>
    have hspaces := width_spaces_append n []
    rw [List.append_nil] at hspaces
    rw [List.replicate_succ, width_append_space h, hspaces, Nat.add_comm 1]
    rfl

/-- More text makes no text narrower. -/
theorem width_le_append (cs more : List Char) : width cs ≤ width (cs ++ more) := by
  have hafter (last : Option Char) : widthAfter last cs ≤ widthAfter last (cs ++ more) := by
    fun_induction widthAfter last cs with
    | case1 => exact Nat.zero_le _
    | case2 => exact Nat.zero_le _
    | case3 last c rest ih => 
      rw [List.cons_append, List.cons_append, widthAfter]
      exact ih
    | case4 last rest ih =>
      rw [List.cons_append, widthAfter]
      exact Nat.add_le_add_left ih _
    | case5 last c rest hlone hjoined hselector width ih =>
      rw [List.cons_append, widthAfter_cons (ne_joiner hlone hjoined) hselector]
      exact Nat.add_le_add_left ih _
  exact hafter none

/-! ### ASCII -/

theorem charWidth_of_isAscii {c : Char} (h : Text.isAscii c = true) : charWidth c = 1 := by
  simp only [Text.isAscii, Bool.and_eq_true, decide_eq_true_eq] at h
  have hbeside (table : List (Nat × Nat))
      (htable : ∀ range ∈ table, range.2 < 0x20 ∨ 0x7F ≤ range.1) :
      Text.inRanges table c = false := by
    apply Bool.eq_false_iff.mpr
    intro hc
    obtain ⟨range, hrange, hlow, hhigh⟩ := Text.inRanges_eq_true.mp hc
    have := htable range hrange
    omega
  rw [charWidth, hbeside zeroWidth (by decide +kernel), hbeside wide (by decide +kernel)]
  rfl

theorem width_of_ascii {cs : List Char} (h : ∀ c ∈ cs, Text.isAscii c = true) :
    width cs = cs.length := by
  have hafter (last : Option Char) : widthAfter last cs = cs.length := by
    induction cs generalizing last with
    | nil => rfl
    | cons c rest ih =>
      have hc := h c List.mem_cons_self
      have hjoiner : c ≠ '\u200d' := by
        rintro rfl
        cases hc
      have hselector : c ≠ '\ufe0f' := by
        rintro rfl
        cases hc
      rw [widthAfter_cons hjoiner hselector, charWidth_of_isAscii hc,
        ih fun d hd => h d (List.mem_cons_of_mem c hd), List.length_cons, Nat.add_comm]
  exact hafter none

end LintBridge.Terminal
