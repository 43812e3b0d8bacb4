import LintBridge.Proofs.Text.Search
import LintBridge.Report.Envelope

/-!
What the envelope leaves of a text. Without a banner that is all of it; between a banner and the
sections of a log it is the text without the blanks around. A section mark inside the text is taken
for the start of the log, and a banner inside it for the start of the report.
-/

namespace LintBridge.Report

theorem banner_absent {t : List Char} (h : 'T' ∉ t) : ¬ banner <:+: t :=
  fun hb => h (hb.subset (by decide))

theorem sectionMark_absent {t : List Char} (h : '━' ∉ t) : ¬ sectionMark <:+: t :=
  fun hm => h (hm.subset (by decide))

theorem payload_of_no_banner {output : List Char} (h : ¬ banner <:+: output) :
    payload output = output := by
  rw [payload, Text.breakAt?_eq_none_iff.mpr h]

/-- What stands behind a banner up to the first section mark, or to the end. -/
def beforeMark (after : List Char) : List Char :=
  (Text.breakAt? sectionMark after).elim after Prod.fst

/-- Behind the first banner everything counts up to the first section mark. -/
theorem payload_of_break {output before after : List Char}
    (h : Text.breakAt? banner output = some (before, after)) :
    payload output = Text.trim (beforeMark after) := by
  rw [payload, h]
  cases hmark : Text.breakAt? sectionMark after <;> simp [beforeMark, hmark]

theorem payload_banner_append (after : List Char) :
    payload (banner ++ after) = Text.trim (beforeMark after) :=
  payload_of_break (Text.breakAt?_self_append (by decide) after)

theorem payload_of_no_mark {t : List Char} (h : ¬ sectionMark <:+: t) :
    payload (banner ++ t) = Text.trim t := by
  rw [payload_banner_append, beforeMark, Text.breakAt?_eq_none_iff.mpr h, Option.elim_none]

/-- The first section mark is the one that the log starts with, whatever the log says. -/
theorem payload_of_section {t : List Char} (h : ¬ sectionMark <:+: t) (s : List Char) :
    payload (banner ++ (t ++ (sectionMark ++ s))) = Text.trim t := by
  have hbreak : Text.breakAt? sectionMark (t ++ sectionMark ++ s) = some (t, s) :=
    @Text.breakAt?_of_absent 'l' "int ━".toList t (by decide) h s
  rw [payload_banner_append, beforeMark, ← List.append_assoc, hbreak, Option.elim_some]

/-- A section mark inside a text cuts it, whatever follows the text. -/
theorem payload_of_mark {t : List Char} (h : sectionMark <:+: t) (more : List Char) :
    ∃ inside rest, t = inside ++ sectionMark ++ rest ∧
      payload (banner ++ (t ++ more)) = Text.trim inside := by
  obtain ⟨inside, rest, hbreak⟩ := Text.exists_breakAt? h
  refine ⟨inside, rest, Text.breakAt?_eq_some hbreak, ?_⟩
  rw [payload_banner_append, beforeMark, Text.breakAt?_append (by decide) hbreak,
    Option.elim_some]

/-- A banner inside a text cuts off what stands before it. -/
theorem payload_of_banner {t : List Char} (h : banner <:+: t) :
    ∃ before inside rest, t = before ++ banner ++ (inside ++ rest) ∧
      payload t = Text.trim inside := by
  obtain ⟨before, after, hbreak⟩ := Text.exists_breakAt? h
  have ht := Text.breakAt?_eq_some hbreak
  cases hmark : Text.breakAt? sectionMark after with
  | none =>
    refine ⟨before, after, [], by rw [List.append_nil, ht], ?_⟩
    simp only [payload, hbreak, hmark]
  | some found =>
    obtain ⟨inside, rest⟩ := found
    refine ⟨before, inside, sectionMark ++ rest, ?_, ?_⟩
    · rw [ht, Text.breakAt?_eq_some hmark, List.append_assoc inside]
    · simp only [payload, hbreak, hmark]

end LintBridge.Report
