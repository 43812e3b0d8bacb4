import LintBridge.Proofs.Text.Search
import Mathlib.Data.List.Infix

/-!
How often a mark stands in a text. No part of a text holds a mark more often than the text, and a
break takes one occurrence away and leaves the others, if the first character of the mark does not
come again in it: such a mark does not overlap with itself.
-/

namespace LintBridge.Text

/-- At how many places of a text a mark stands. -/
def occurrences (mark cs : List Char) : Nat :=
  cs.tails.countP fun tail => mark <+: tail

theorem occurrences_cons (mark : List Char) (c : Char) (cs : List Char) :
    occurrences mark (c :: cs) = occurrences mark cs + if mark <+: c :: cs then 1 else 0 := by
  simp only [occurrences, List.tails_cons, List.countP_cons, decide_eq_true_eq]

theorem occurrences_eq_zero_iff {mark cs : List Char} :
    occurrences mark cs = 0 ↔ ¬ mark <:+: cs := by
  rw [occurrences, List.countP_eq_zero, List.infix_iff_prefix_suffix]
  simp only [List.mem_tails, decide_eq_true_eq, not_exists, not_and']

/-! ### Parts of a text -/

theorem occurrences_le_append_left (mark front cs : List Char) :
    occurrences mark cs ≤ occurrences mark (front ++ cs) := by
  induction front with
  | nil => exact Nat.le_refl _
  | cons c front ih =>
    rw [List.cons_append, occurrences_cons]
    exact Nat.le_add_right_of_le ih

theorem occurrences_le_append_right (mark cs back : List Char) :
    occurrences mark cs ≤ occurrences mark (cs ++ back) := by
  induction cs with
  | nil => simpa using occurrences_le_append_left mark back []
  | cons c cs ih =>
    rw [List.cons_append, occurrences_cons, occurrences_cons]
    refine Nat.add_le_add ih ?_
    by_cases hstart : mark <+: c :: cs
    · have hmore : mark <+: c :: (cs ++ back) := hstart.trans (List.prefix_append (c :: cs) back)
      rw [if_pos hstart, if_pos hmore]
    · rw [if_neg hstart]
      exact Nat.zero_le _

/-- A part of a text holds a mark no more often than the text. -/
theorem occurrences_le_of_isInfix (mark : List Char) {cs text : List Char} (h : cs <:+: text) :
    occurrences mark cs ≤ occurrences mark text := by
  obtain ⟨front, back, rfl⟩ := h
  exact (occurrences_le_append_left mark front cs).trans (occurrences_le_append_right mark _ back)

/-! ### Breaks -/

/-- No mark starts where its first character is missing. -/
theorem occurrences_append_of_not_mem {m : Char} {front : List Char} (h : m ∉ front)
    (ms cs : List Char) : occurrences (m :: ms) (front ++ cs) = occurrences (m :: ms) cs := by
  induction front with
  | nil => rfl
  | cons c front ih =>
    obtain ⟨hc, hfront⟩ := not_or.mp (List.mem_cons.not.mp h)
    have hstart : ¬ m :: ms <+: c :: (front ++ cs) := fun hmark =>
      hc (List.cons_prefix_cons.mp hmark).1
    rw [List.cons_append, occurrences_cons, if_neg hstart, Nat.add_zero, ih hfront]

/-- Behind the first occurrence of a mark there is one occurrence less. -/
theorem occurrences_of_breakAt? {m : Char} {ms cs before after : List Char} (hm : m ∉ ms)
    (h : breakAt? (m :: ms) cs = some (before, after)) :
    occurrences (m :: ms) cs = occurrences (m :: ms) after + 1 := by
  induction cs generalizing before with
  | nil => simp [breakAt?] at h
  | cons c cs ih =>
    rcases breakAt?_cons_eq_some_iff.mp h with ⟨-, hcs⟩ | ⟨hstart, front, rfl, hbreak⟩
    · have hstart : m :: ms <+: c :: cs := ⟨after, hcs.symm⟩
      have htail : cs = ms ++ after := (List.cons.inj hcs).2
      rw [occurrences_cons, if_pos hstart, htail, occurrences_append_of_not_mem hm]
    · rw [occurrences_cons, if_neg hstart, ih hbreak]

end LintBridge.Text
