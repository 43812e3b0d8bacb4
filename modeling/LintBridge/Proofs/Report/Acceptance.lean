import LintBridge.Proofs.Report.RoundTrip

/-!
Which output is accepted, and what it is told as.

Behind the first document everything is decided by the entries of its report: all of them must make
diagnostics. Then there are as many problems as entries, in the same order. One entry that does not
make a diagnostic leaves nothing of the others.
-/

namespace LintBridge.Report

/-- Behind the first document, all is decided by the entries of the report in it. -/
theorem translate_eq_ok_iff_entries {owner : Owner} {output : List Char} {document : Json}
    (h : firstDocument (payload output) = .ok document) {problems : List Problem} :
    translate owner output = .ok problems ↔
      ∃ source entries diagnostics, reported? document = some source ∧
        HasEntries source entries ∧ List.Forall₂ IsEntry entries diagnostics ∧
        diagnostics.map (.ofDiagnostic owner) = problems := by
  simp only [translate_eq_ok_iff, parse_eq_ok_iff, h, decode_eq_ok_iff]
  constructor
  · rintro ⟨r, ⟨_, source, ⟨⟩, hsource, entries, hentries, hall⟩, rfl⟩
    exact ⟨source, entries, r.diagnostics, hsource, hentries, hall, rfl⟩
  · rintro ⟨source, entries, diagnostics, hsource, hentries, hall, rfl⟩
    exact ⟨⟨diagnostics⟩, ⟨document, source, rfl, hsource, entries, hentries, hall⟩, rfl⟩

theorem exists_forall₂ {α β : Type} {R : α → β → Prop} {as : List α} (h : ∀ a ∈ as, ∃ b, R a b) :
    ∃ bs, List.Forall₂ R as bs := by
  induction as with
  | nil => exact ⟨[], .nil⟩
  | cons a as ih =>
    obtain ⟨⟨b, hb⟩, hrest⟩ := List.forall_mem_cons.mp h
    obtain ⟨bs, hbs⟩ := ih hrest
    exact ⟨b :: bs, .cons hb hbs⟩

theorem exists_of_forall₂ {α β : Type} {R : α → β → Prop} {as : List α} {bs : List β}
    (h : List.Forall₂ R as bs) : ∀ a ∈ as, ∃ b, R a b := by
  induction h with
  | nil => simp
  | cons hab _ ih => exact List.forall_mem_cons.mpr ⟨⟨_, hab⟩, ih⟩

/-- The offsets of a problem count from one, and its end is not before its start. -/
theorem Problem.ofDiagnostic_ordered (owner : Owner) (d : Diagnostic) :
    1 ≤ (Problem.ofDiagnostic owner d).position ∧
      (Problem.ofDiagnostic owner d).position ≤ (Problem.ofDiagnostic owner d).endPosition :=
  ⟨Nat.succ_pos _, Nat.succ_le_succ d.span.start_le_stop⟩

/-- Output is accepted if the document that its first document reports is an object whose
diagnostics are entries, all of them. Then there is one problem for each entry, in their order, with
its offsets counted from one, its message made of description and category, and the owner's data. -/
theorem translate_accepts_exactly (owner : Owner) {output : List Char} {document : Json}
    (h : firstDocument (payload output) = .ok document) :
    ((∃ problems, translate owner output = .ok problems) ↔
        ∃ source entries, reported? document = some source ∧ HasEntries source entries ∧
          ∀ entry ∈ entries, ∃ d, IsEntry entry d) ∧
      ∀ problems, translate owner output = .ok problems →
        (∀ p ∈ problems, 1 ≤ p.position ∧ p.position ≤ p.endPosition) ∧
        ∃ source entries, reported? document = some source ∧ HasEntries source entries ∧
          List.Forall₂
            (fun entry p => ∃ d, IsEntry entry d ∧
              p = { position := d.span.start + 1
                    endPosition := d.span.stop + 1
                    severity := .ofLabel d.label
                    message := d.description ++ "(" ++ d.category ++ ")"
                    category := d.category
                    checker := owner.checker
                    filename := owner.filename
                    buffer := owner.buffer })
            entries problems := by
  simp only [translate_eq_ok_iff_entries h]
  refine ⟨⟨?_, ?_⟩, ?_⟩
  · rintro ⟨_, source, entries, diagnostics, hsource, hentries, hall, rfl⟩
    exact ⟨source, entries, hsource, hentries, exists_of_forall₂ hall⟩
  · rintro ⟨source, entries, hsource, hentries, hall⟩
    obtain ⟨diagnostics, hdiagnostics⟩ := exists_forall₂ hall
    exact ⟨_, source, entries, diagnostics, hsource, hentries, hdiagnostics, rfl⟩
  · rintro problems ⟨source, entries, diagnostics, hsource, hentries, hall, rfl⟩
    refine ⟨?_, source, entries, hsource, hentries, ?_⟩
    · intro p hp
      obtain ⟨d, -, rfl⟩ := List.mem_map.mp hp
      exact Problem.ofDiagnostic_ordered owner d
    · rw [List.forall₂_map_right_iff]
      exact hall.imp fun entry d hd => ⟨d, hd, rfl⟩

/-- The result for a written report of one diagnostic. -/
theorem translate_accepts_written :
    let r : Report := ⟨[⟨"lint", "hint", "no", ⟨3, 8, by decide⟩⟩]⟩
    firstDocument (payload r.write) = .ok r.toJson ∧
      ∃ problems, translate ⟨"biome", none, none⟩ r.write = .ok problems := by
  intro r
  have hrange : ∀ d ∈ r.diagnostics, d.span.stop < 10 ^ Decimal.maxDigits :=
    List.forall_mem_singleton.mpr (inRange_of_digits (by decide))
  have hfirst : firstDocument (payload r.write) = .ok r.toJson := by
    rw [payload_of_no_banner (banner_absent (by decide))]
    exact firstDocument_write hrange
  refine ⟨hfirst, (translate_accepts_exactly _ hfirst).1.mpr ⟨_, _, rfl, ⟨_, rfl, rfl⟩, ?_⟩⟩
  exact List.forall_mem_singleton.mpr ⟨_, Diagnostic.isEntry _⟩

end LintBridge.Report
