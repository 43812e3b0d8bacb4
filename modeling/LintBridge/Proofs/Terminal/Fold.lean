import LintBridge.Terminal.Fold
import LintBridge.Proofs.Terminal.Console
import LintBridge.Proofs.Terminal.Width
import LintBridge.Proofs.Text.Blank
import LintBridge.Proofs.Text.Printable

/-!
Lines that fit into their place.

Such a line is not folded, but it can lose blanks at its end: characters of no cell let it hold more
characters than its place has cells, and then as many of these blanks are dropped.
-/

namespace LintBridge.Terminal

open Text (Printable Blanks)

theorem verbatim_of_printable {cs : List Char} (h : Printable cs) : Verbatim cs := by
  intro c hc
  have hlow := Text.le_toNat_of_isPrintable (h c hc)
  refine isVerbatim_iff.mpr ⟨?_, ?_, ?_⟩
  · apply Bool.eq_false_iff.mpr
    intro hdropped
    simp only [isDropped, List.contains_cons, List.contains_nil, Bool.or_eq_true, beq_iff_eq,
      Bool.false_eq_true, or_false] at hdropped
    omega
  · rintro rfl
    exact absurd hlow (by decide)
  · rintro rfl
    exact absurd hlow (by decide)

theorem joiner_not_mem {cs : List Char} (h : Printable cs) : '\u200d' ∉ cs := by
  intro hmem
  obtain ⟨-, -, hspaces, -⟩ := Text.toNat_of_isPrintable (h _ hmem)
  exact hspaces (by decide)

/-- What is dropped at the end of a line that is too long are blanks. -/
theorem exists_dropExcess (size : Nat) (line : List Char) :
    ∃ dropped, Blanks dropped ∧ line = dropExcess size line ++ dropped := by
  obtain ⟨trail, htrail, hline⟩ := Text.exists_dropEndWhile line
  have hlength := congrArg List.length hline
  rw [List.length_append] at hlength
  refine ⟨_, ?_, (List.take_append_drop _ line).symm⟩
  intro c hc
  have hfront : (Text.dropEndWhile Text.isBlank line).length ≤
      line.length - min (line.length - (Text.dropEndWhile Text.isBlank line).length)
        (line.length - size) := by
    omega
  rw [congrArg (List.drop _) hline, List.drop_append, List.drop_eq_nil_of_le hfront] at hc
  exact htrail c (List.mem_of_mem_drop hc)

/-- A line that fits stays one line. -/
theorem fit_of_width_le (overflow : Overflow) {size : Nat} {line : List Char}
    (h : width line ≤ size) : fit overflow size line = [dropExcess size line] := by
  obtain ⟨dropped, -, hline⟩ := exists_dropExcess size line
  have hdropped : width (dropExcess size line) ≤ size := by
    have hle := width_le_append (dropExcess size line) dropped
    rw [← hline] at hle
    omega
  rw [fit, if_pos (.inl h), List.map_singleton, crop.eq_def, if_pos hdropped]

/-- Of a printable line spaces are dropped, and each of them is as wide as a cell. -/
theorem exists_spaces_of_dropExcess {line : List Char} (h : Printable line) (size : Nat) :
    ∃ n, line = dropExcess size line ++ List.replicate n ' ' ∧
      width line = width (dropExcess size line) + n := by
  obtain ⟨dropped, hblanks, hline⟩ := exists_dropExcess size line
  have hdropped : dropped = List.replicate dropped.length ' ' := by
    refine List.eq_replicate_of_mem fun c hc => ?_
    exact Text.eq_space_of_isPrintable (h c (hline ▸ List.mem_append_right _ hc)) (hblanks c hc)
  have hjoiner : '\u200d' ∉ dropExcess size line :=
    fun hmem => joiner_not_mem h (hline ▸ List.mem_append_left _ hmem)
  rw [hdropped] at hline
  exact ⟨_, hline, (congrArg width hline).trans (width_append_spaces hjoiner _)⟩

end LintBridge.Terminal
