import LintBridge.Proofs.Json.Container
import LintBridge.Proofs.Report.RoundTrip
import Mathlib.Data.List.DropRight

/-!
What comes behind a report in an output.

A report is an array or an object, so its end shows in it, and what follows it does not count
(`parse_append`). More output may still change where the payload ends: it may complete a section
mark that the output breaks off in. But no part of a section mark is a closing bracket, so a payload
that starts with a report goes on doing so (`parse_beforeMark_append`).
-/

namespace LintBridge.Report

/-! ### The report that a text starts with -/

/-- Only an array or an object holds a report. -/
theorem isScalar_of_reported {document source : Json} {r : Report}
    (h : reported? document = some source) (hr : decode source = .ok r) :
    Json.isScalar document = false := by
  obtain ⟨entries, ⟨members, rfl, -⟩, -⟩ := decode_eq_ok_iff.mp hr
  cases document with
  | arr items => rfl
  | obj members => rfl
  | _ => cases h

/-- How a text holds a report: behind its blanks there is an array or an object. -/
theorem parse_eq_ok_iff_document {text : List Char} {r : Report} : parse text = .ok r ↔
    ∃ document source rest, Json.Document (Text.trimStart text) document rest ∧
      Json.isScalar document = false ∧ Json.Fits Json.maxDepth document ∧
      reported? document = some source ∧ decode source = .ok r := by
  simp only [parse_eq_ok_iff, firstDocument_eq_ok_iff]
  constructor
  · rintro ⟨document, source, ⟨rest, hdoc, hfits⟩, hsource, hr⟩
    exact ⟨document, source, rest, hdoc, isScalar_of_reported hsource hr, hfits, hsource, hr⟩
  · rintro ⟨document, source, rest, hdoc, -, hfits, hsource, hr⟩
    exact ⟨document, source, ⟨rest, hdoc, hfits⟩, hsource, hr⟩

/-- What follows a report does not count. -/
theorem parse_append {t : List Char} {r : Report} (h : parse t = .ok r) (more : List Char) :
    parse (t ++ more) = .ok r := by
  obtain ⟨document, source, rest, hdoc, hscalar, hfits, hsource, hr⟩ :=
    parse_eq_ok_iff_document.mp h
  have hstart : Text.trimStart (t ++ more) = Text.trimStart t ++ more := by
    obtain ⟨text, htext, hsolid, -⟩ := hdoc.exists_closed hscalar
    have hne : ¬ (Text.trimStart t).isEmpty = true := by simp [htext, hsolid.ne_nil]
    exact List.dropWhile_append.trans (if_neg hne)
  refine parse_eq_ok_iff_document.mpr ⟨document, source, rest ++ more, ?_, hscalar, hfits, hsource,
    hr⟩
  rw [hstart]
  exact hdoc.append hscalar more

/-- A text without closing brackets behind a report does not count, so it may be missing. -/
theorem parse_of_append {t cut : List Char} {r : Report} (h : parse (t ++ cut) = .ok r)
    (hcut : ∀ c ∈ cut, Json.isClosing c = false) : parse t = .ok r := by
  obtain ⟨document, source, rest, hdoc, hscalar, hfits, hsource, hr⟩ :=
    parse_eq_ok_iff_document.mp h
  rw [Text.trimStart, List.dropWhile_append] at hdoc
  split at hdoc
  · -- all before the cut is blank, so the document's last bracket would be cut off
    obtain ⟨inside, close, hclose, hinside⟩ := hdoc.exists_closing hscalar
    have hmem : close ∈ cut := (List.dropWhile_sublist _).subset (by rw [hinside]; simp)
    rw [hcut close hmem] at hclose
    cases hclose
  · obtain ⟨left, hleft⟩ := hdoc.of_append hscalar hcut
    exact parse_eq_ok_iff_document.mpr
      ⟨document, source, left, hleft, hscalar, hfits, hsource, hr⟩

theorem isClosing_of_isBlank {c : Char} (h : Text.isBlank c = true) : Json.isClosing c = false := by
  cases hc : Json.isClosing c with
  | false => rfl
  | true =>
    simp only [Json.isClosing, Bool.or_eq_true, beq_iff_eq] at hc
    rcases hc with rfl | rfl <;> cases h

/-- The blanks around a report do not count. -/
theorem parse_trim {t : List Char} {r : Report} : parse (Text.trim t) = .ok r ↔ parse t = .ok r := by
  obtain ⟨trail, htrail, hstart⟩ := Text.exists_trim t
  have htrimStart : parse (Text.trimStart t) = .ok r ↔ parse t = .ok r := by
    have hagain : Text.trimStart (Text.trimStart t) = Text.trimStart t :=
      List.dropWhile_idempotent Text.isBlank t
    rw [parse_eq_ok_iff_document, parse_eq_ok_iff_document, hagain]
  rw [← htrimStart, hstart]
  constructor
  · exact fun h => parse_append h trail
  · exact fun h => parse_of_append h fun c hc => isClosing_of_isBlank (htrail c hc)

/-! ### The payload of a longer output -/

theorem isClosing_of_mem_sectionMark {c : Char} (h : c ∈ sectionMark) :
    Json.isClosing c = false := by
  have hall : sectionMark.all (fun c => !Json.isClosing c) = true := by decide
  simpa using List.all_eq_true.mp hall c h

/-- A text that breaks off in a section mark, which more text completes, is cut there. What it is
cut by is the start of the mark. -/
theorem prefix_sectionMark_of_cut {inside cut s rest : List Char}
    (h : cut ++ s = sectionMark ++ rest) (hno : ¬ sectionMark <:+: inside ++ cut) :
    cut <+: sectionMark := by
  have hcut : cut <+: sectionMark ++ rest := ⟨s, h⟩
  refine (List.prefix_or_prefix_of_prefix hcut (List.prefix_append _ rest)).resolve_right ?_
  exact fun hmark => hno (hmark.isInfix.trans (List.suffix_append inside cut).isInfix)

/-- A report behind a banner stays where it is if more text follows. -/
theorem parse_beforeMark_append {after : List Char} {r : Report}
    (h : parse (beforeMark after) = .ok r) (s : List Char) :
    parse (beforeMark (after ++ s)) = .ok r := by
  cases hmark : Text.breakAt? sectionMark after with
  | some found =>
    have hmore := Text.breakAt?_append (by decide) hmark s
    rw [beforeMark, hmark] at h
    rw [beforeMark, hmore]
    exact h
  | none =>
    rw [beforeMark, hmark, Option.elim_none] at h
    cases hmore : Text.breakAt? sectionMark (after ++ s) with
    | none =>
      rw [beforeMark, hmore, Option.elim_none]
      exact parse_append h s
    | some found =>
      obtain ⟨inside, rest⟩ := found
      rw [beforeMark, hmore, Option.elim_some]
      have hsplit : after ++ s = inside ++ (sectionMark ++ rest) := by
        rw [Text.breakAt?_eq_some hmore, List.append_assoc]
      rcases List.append_eq_append_iff.mp hsplit with ⟨more, rfl, -⟩ | ⟨cut, rfl, hcut⟩
      · exact parse_append h more
      · -- the mark starts in the text that was there, so the text breaks off in it
        have hstart := prefix_sectionMark_of_cut hcut.symm (Text.breakAt?_eq_none_iff.mp hmark)
        exact parse_of_append h fun c hc => isClosing_of_mem_sectionMark (hstart.subset hc)

/-- Output that is told as problems is told as the same problems if more output follows, unless it
has no banner and more output brings one. -/
theorem translate_append {owner : Owner} {t s : List Char} {problems : List Problem}
    (h : translate owner t = .ok problems) (hs : banner <:+: t ∨ ¬ banner <:+: t ++ s) :
    translate owner (t ++ s) = .ok problems := by
  obtain ⟨r, hr, hproblems⟩ := translate_eq_ok_iff.mp h
  refine translate_eq_ok_iff.mpr ⟨r, ?_, hproblems⟩
  by_cases hbanner : banner <:+: t
  · obtain ⟨before, after, hbreak⟩ := Text.exists_breakAt? hbanner
    rw [payload_of_break hbreak, parse_trim] at hr
    rw [payload_of_break (Text.breakAt?_append (by decide) hbreak s), parse_trim]
    exact parse_beforeMark_append hr s
  · rw [payload_of_no_banner hbanner] at hr
    rw [payload_of_no_banner (hs.resolve_left hbanner)]
    exact parse_append hr s

/-- Output that breaks off in a section mark. -/
def brokenOff : List Char :=
  banner ++ (Report.write ⟨[⟨"lint", "error", "no", ⟨3, 8, by decide⟩⟩]⟩ ++ "\nlint ".toList)

theorem translate_brokenOff : translate ⟨"biome", none, none⟩ brokenOff =
    .ok [⟨4, 9, .error, "no(lint)", "lint", "biome", none, none⟩] := by
  have hparse := Report.parse_write (r := ⟨[⟨"lint", "error", "no", ⟨3, 8, by decide⟩⟩]⟩)
    (List.forall_mem_singleton.mpr (inRange_of_digits (by decide)))
  refine translate_eq_ok_iff.mpr ⟨⟨[⟨"lint", "error", "no", ⟨3, 8, by decide⟩⟩]⟩, ?_, by decide⟩
  rw [brokenOff, payload_of_no_mark (sectionMark_absent (by decide)), parse_trim]
  exact parse_append hparse _

/-- The output that breaks off in a section mark, and the one that completes the mark and has a
document behind it. -/
theorem translate_append_completed :
    translate ⟨"biome", none, none⟩ brokenOff =
        .ok [⟨4, 9, .error, "no(lint)", "lint", "biome", none, none⟩] ∧
      translate ⟨"biome", none, none⟩ (brokenOff ++ "━━ [17]".toList) =
        .ok [⟨4, 9, .error, "no(lint)", "lint", "biome", none, none⟩] :=
  ⟨translate_brokenOff, translate_append translate_brokenOff (.inl ⟨[], _, rfl⟩)⟩

end LintBridge.Report
