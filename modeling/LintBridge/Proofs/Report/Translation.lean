import LintBridge.Proofs.Json.Reader
import LintBridge.Proofs.Report.Decode
import LintBridge.Report.Problem

/-!
From a text to problems.

One statement for each step says what the step takes and what it gives: the first document of a text
is the one that the text starts with, the report of a text is the one that its first document holds,
and the problems of an output are those of the report in its payload.
-/

namespace LintBridge.Report

/-- The document that a report is taken from: the first item of an array, and anything else as it
is. -/
def reported? : Json → Option Json
  | .arr [] => none
  | .arr (first :: _) => some first
  | document => some document

/-- A text gives the document that it starts with behind its blanks, if that fits the limits. -/
theorem firstDocument_eq_ok_iff {text : List Char} {document : Json} :
    firstDocument text = .ok document ↔
      ∃ rest, Json.Document (Text.trimStart text) document rest ∧
        Json.Fits Json.maxDepth document := by
  simp only [← Json.read_eq_ok_iff]
  unfold firstDocument
  split
  · next hnil =>
    rw [hnil]
    simp only [reduceCtorEq, false_iff, not_exists]
    intro rest hread
    exact Nat.not_lt_zero _ (Json.read_eq_ok_iff.mp hread).1.length_lt
  · split <;> next hread => simp [hread]

theorem parse_eq_ok_iff {text : List Char} {r : Report} :
    parse text = .ok r ↔
      ∃ document source, firstDocument text = .ok document ∧ reported? document = some source ∧
        decode source = .ok r := by
  unfold parse
  cases firstDocument text with
  | error fault => simp [bind, Except.bind]
  | ok document =>
    -- what is left is the report of the one document that is taken
    have htaken : ∀ source, reported? document = some source →
        ((∃ d s, (.ok document : Except ReadError Json) = .ok d ∧ reported? d = some s ∧
          decode s = .ok r) ↔ decode source = .ok r) := by
      intro source hsource
      simp [hsource]
    cases document with
    | arr items =>
      cases items with
      | nil => simp [bind, Except.bind, reported?]
      | cons first more =>
        rw [htaken first rfl]
        cases hd : decode first <;> simp [bind, Except.bind, pure, Except.pure, hd]
    | obj members =>
      rw [htaken (.obj members) rfl]
      cases hd : decode (.obj members) <;> simp [bind, Except.bind, pure, Except.pure, hd]
    | _ => simp [bind, Except.bind, pure, Except.pure, reported?, decode, members, Checked.refuse,
        Checked.andThen, Checked.map]

theorem translate_eq_ok_iff {owner : Owner} {output : List Char} {problems : List Problem} :
    translate owner output = .ok problems ↔
      ∃ r, parse (payload output) = .ok r ∧ r.problems owner = problems := by
  unfold translate
  cases parse (payload output) <;> simp [bind, Except.bind, pure, Except.pure]

/-- The problems of an output belong to whom it was translated for. -/
theorem owner_of_mem_translate {owner : Owner} {output : List Char} {problems : List Problem}
    (h : translate owner output = .ok problems) :
    ∀ p ∈ problems, (⟨p.checker, p.filename, p.buffer⟩ : Owner) = owner := by
  obtain ⟨r, -, rfl⟩ := translate_eq_ok_iff.mp h
  intro p hp
  obtain ⟨d, -, rfl⟩ := List.mem_map.mp hp
  rfl

end LintBridge.Report
