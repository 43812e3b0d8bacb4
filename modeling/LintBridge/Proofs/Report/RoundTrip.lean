import LintBridge.Proofs.Json.Writer
import LintBridge.Proofs.Report.Envelope
import LintBridge.Proofs.Report.Translation

/-!
Reports as the linter writes them, and the way back.

A written report is one document that decodes to the report. So all of it is told as problems, with
every text as it was (`translate_write`), unless a text of the report holds the banner.
-/

namespace LintBridge

/-! ### Written reports -/

/-- A span as the linter writes it. -/
def Span.write (s : Span) : List Char :=
  Json.writeArray [Json.writeNat s.start, Json.writeNat s.stop]

/-- A diagnostic as the linter writes it. -/
def Diagnostic.write (d : Diagnostic) : List Char :=
  Json.writeObject
    [ Json.writeMember "category" (Json.writeString d.category),
      Json.writeMember "severity" (Json.writeString d.label),
      Json.writeMember "description" (Json.writeString d.description),
      Json.writeMember "location" (Json.writeObject [Json.writeMember "span" d.span.write]) ]

/-- A report as the linter writes it. -/
def Report.write (r : Report) : List Char :=
  Json.writeObject
    [Json.writeMember "diagnostics" (Json.writeArray (r.diagnostics.map Diagnostic.write))]

/-- The document that a diagnostic is written as. -/
def Diagnostic.toJson (d : Diagnostic) : Json :=
  .obj
    [ ("category", .str d.category),
      ("severity", .str d.label),
      ("description", .str d.description),
      ("location", .obj [("span", .arr [.int d.span.start, .int d.span.stop])]) ]

/-- The document that a report is written as. -/
def Report.toJson (r : Report) : Json :=
  .obj [("diagnostics", .arr (r.diagnostics.map Diagnostic.toJson))]

theorem Diagnostic.writes (d : Diagnostic) : Json.Writes d.write d.toJson := by
  have hspan : Json.Writes d.span.write (.arr [.int d.span.start, .int d.span.stop]) :=
    Json.writes_array (.cons (Json.writes_nat _) (.cons (Json.writes_nat _) .nil))
  have hlocation : Json.Writes (Json.writeObject [Json.writeMember "span" d.span.write])
      (.obj [("span", .arr [.int d.span.start, .int d.span.stop])]) :=
    Json.writes_object (.cons (Json.writesMember_member _ hspan) .nil)
  refine Json.writes_object (.cons ?_ (.cons ?_ (.cons ?_ (.cons ?_ .nil))))
  · exact Json.writesMember_member _ (Json.writes_string d.category)
  · exact Json.writesMember_member _ (Json.writes_string d.label)
  · exact Json.writesMember_member _ (Json.writes_string d.description)
  · exact Json.writesMember_member _ hlocation

theorem Report.writes (r : Report) : Json.Writes r.write r.toJson := by
  have hentries : List.Forall₂ Json.Writes (r.diagnostics.map Diagnostic.write)
      (r.diagnostics.map Diagnostic.toJson) := by
    rw [List.forall₂_map_left_iff, List.forall₂_map_right_iff, List.forall₂_same]
    exact fun d _ => d.writes
  exact Json.writes_object (.cons (Json.writesMember_member _ (Json.writes_array hentries)) .nil)

example :
    Report.write ⟨[⟨"lint", "error", "\"é\"\n", ⟨4, 10, by decide⟩⟩]⟩ =
      ("\x7b\"diagnostics\": [\x7b\"category\": \"lint\", \"severity\": \"error\", " ++
        "\"description\": \"\\\"\\u00e9\\\"\\n\", " ++
        "\"location\": \x7b\"span\": [4, 10]\x7d\x7d]\x7d").toList := by
  cbv

/-! ### The way back -/

theorem Json.fits_str (depth : Nat) (s : String) : Fits depth (.str s) :=
  .scalar rfl trivial

theorem Json.fits_nat (depth : Nat) {n : Nat} (h : n < 10 ^ Decimal.maxDigits) :
    Fits depth (.int n) :=
  .scalar rfl h

/-- A diagnostic nests three deep. -/
theorem Diagnostic.fits (depth : Nat) {d : Diagnostic} (h : d.span.stop < 10 ^ Decimal.maxDigits) :
    Json.Fits (depth + 3) d.toJson := by
  have hstart := Nat.lt_of_le_of_lt d.span.start_le_stop h
  have hspan : Json.Fits (depth + 1) (.arr [.int d.span.start, .int d.span.stop]) := by
    refine .arr (List.forall_mem_cons.mpr ⟨Json.fits_nat _ hstart, ?_⟩)
    exact List.forall_mem_singleton.mpr (Json.fits_nat _ h)
  refine .obj ?_
  simp only [List.forall_mem_cons]
  refine ⟨Json.fits_str _ _, Json.fits_str _ _, Json.fits_str _ _, ?_, by simp⟩
  exact .obj (List.forall_mem_singleton.mpr hspan)

theorem Report.fits (depth : Nat) {r : Report}
    (h : ∀ d ∈ r.diagnostics, d.span.stop < 10 ^ Decimal.maxDigits) :
    Json.Fits (depth + 5) r.toJson := by
  refine .obj (List.forall_mem_singleton.mpr (.arr ?_))
  intro v hv
  obtain ⟨d, hd, rfl⟩ := List.mem_map.mp hv
  exact Diagnostic.fits depth (h d hd)

theorem Diagnostic.isEntry (d : Diagnostic) : Report.IsEntry d.toJson d :=
  ⟨_, _, _, _, rfl, rfl, rfl, rfl, rfl, rfl, rfl, rfl⟩

/-- A written report is decoded to itself. -/
theorem Report.decode_toJson (r : Report) : decode r.toJson = .ok r := by
  refine decode_eq_ok_iff.mpr ⟨_, ⟨_, rfl, rfl⟩, ?_⟩
  rw [List.forall₂_map_left_iff, List.forall₂_same]
  exact fun d _ => d.isEntry

theorem Report.inRange_of_digits {n : Nat}
    (h : (Nat.toDigits 10 n).length ≤ Decimal.maxDigits) : n < 10 ^ Decimal.maxDigits :=
  (Nat.length_toDigits_le_iff (by decide) (by decide)).mp h

/-- A written report whose offsets are in range is one document. -/
theorem Report.firstDocument_write {r : Report}
    (h : ∀ d ∈ r.diagnostics, d.span.stop < 10 ^ Decimal.maxDigits) :
    firstDocument r.write = .ok r.toJson := by
  have hdoc : Json.Document r.write r.toJson [] := by
    simpa using r.writes [] rfl
  exact firstDocument_eq_ok_iff.mpr ⟨[], hdoc, Report.fits 975 h⟩

theorem Report.parse_write {r : Report}
    (h : ∀ d ∈ r.diagnostics, d.span.stop < 10 ^ Decimal.maxDigits) : parse r.write = .ok r :=
  parse_eq_ok_iff.mpr ⟨_, _, firstDocument_write h, rfl, r.decode_toJson⟩

/-- A report is told as it was written: one problem for each diagnostic, in their order, with its
texts unchanged. Its offsets must not have more digits than are read. -/
theorem Report.translate_write (owner : Owner) (r : Report)
    (hdigits : ∀ d ∈ r.diagnostics, (Nat.toDigits 10 d.span.stop).length ≤ Decimal.maxDigits)
    (hbanner : ¬ banner <:+: r.write) :
    translate owner r.write = .ok (r.diagnostics.map fun d =>
      { position := d.span.start + 1
        endPosition := d.span.stop + 1
        severity := .ofLabel d.label
        message := d.description ++ "(" ++ d.category ++ ")"
        category := d.category
        checker := owner.checker
        filename := owner.filename
        buffer := owner.buffer }) := by
  have hrange : ∀ d ∈ r.diagnostics, d.span.stop < 10 ^ Decimal.maxDigits := fun d hd =>
    inRange_of_digits (hdigits d hd)
  refine translate_eq_ok_iff.mpr ⟨r, ?_, rfl⟩
  rw [payload_of_no_banner hbanner]
  exact parse_write hrange

/-- The round trip of a text with a quote, a line break and a character beyond the first plane. -/
theorem Report.translate_write_escaped :
    translate ⟨"biome", none, none⟩
        (Report.write ⟨[⟨"lint", "fatal", "\"é\"\n😀", ⟨0, 7, by decide⟩⟩]⟩) =
      .ok [⟨1, 8, .error, "\"é\"\n😀(lint)", "lint", "biome", none, none⟩] := by
  refine (translate_write _ _ (by decide) ?_).trans ?_
  · exact banner_absent (by decide)
  · decide

end LintBridge
