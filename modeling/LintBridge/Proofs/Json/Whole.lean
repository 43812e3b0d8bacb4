import LintBridge.Proofs.Json.Quotation

/-!
Texts that are one document, with blanks around it.

A piece that is cut out of such a text starts with no document if it is the start of the text and
the rest holds a character that stands in strings only (`Whole.no_document_before`). If it lies
behind a character that stands in strings only, and behind others that open and close none, then the
reader takes the strings of the text for what is between them (`Whole.names_behind`).
-/

namespace LintBridge.Json

/-- The text is one document with blanks around it. -/
def Whole (t : List Char) (v : Json) : Prop :=
  ∃ lead body trail, t = lead ++ body ++ trail ∧ Text.Blanks lead ∧ Text.Blanks trail ∧
    Document body v []

theorem stops_of_blanks {trail : List Char} (h : Text.Blanks trail) : Stops trail := by
  cases trail with
  | nil => rfl
  | cons c trail =>
    refine stops_cons ?_
    cases hc : isNumeric c with
    | false => rfl
    | true =>
      have hbare : isBare c = true := by rw [isBare, hc, Bool.true_or]
      have hblank := h c List.mem_cons_self
      rw [isBlank_of_isBare hbare] at hblank
      cases hblank

/-- Without blanks around it the text is the document, and behind the blanks in front of it the
document is followed by blanks. -/
theorem Whole.exists_document {t : List Char} {v : Json} (h : Whole t v) :
    Document (Text.trim t) v [] ∧ ∃ trail, Text.Blanks trail ∧
      Text.trimStart t = Text.trim t ++ trail ∧ Document (Text.trimStart t) v trail := by
  obtain ⟨lead, body, trail, rfl, hlead, htrail, hdoc⟩ := h
  obtain ⟨text, hbody, hsolid, hagain⟩ := hdoc.exists_text
  rw [List.append_nil] at hbody
  subst hbody
  have htrim := Text.trim_of_solid hlead hsolid htrail
  have hstart : Text.trimStart (lead ++ body ++ trail) = body ++ trail := by
    rw [List.append_assoc, Text.trimStart_blanks_append hlead,
      Text.trimStart_of_solid_append hsolid]
  rw [htrim, hstart]
  exact ⟨hdoc, trail, htrail, rfl, hagain trail fun _ => stops_of_blanks htrail⟩

theorem wellQuoted_blanks {place : Place} {blanks : List Char} (hb : Text.Blanks blanks)
    (cs : List Char) (hp : place ≠ .escaped := by decide) :
    WellQuoted place (blanks ++ cs) ↔ WellQuoted place cs :=
  wellQuoted_marks (fun c hc => isMark_of_isBlank (hb c hc)) cs hp

theorem Whole.wellQuoted {t : List Char} {v : Json} (h : Whole t v) : WellQuoted .outside t := by
  obtain ⟨trail, htrail, -, hdoc⟩ := h.exists_document.2
  obtain ⟨lead, hlead, ht⟩ := Text.exists_trimStart t
  have htrailQuoted : WellQuoted .outside trail := by
    rw [← List.append_nil trail, wellQuoted_blanks htrail]
    trivial
  rw [ht, wellQuoted_blanks hlead]
  exact hdoc.wellQuoted htrailQuoted

/-- A document that starts like a number has bare characters only. -/
theorem Document.isBare_of_startsNumber {cs rest : List Char} {v : Json} (h : Document cs v rest)
    (hs : startsNumber cs = true) : ∃ text, cs = text ++ rest ∧ ∀ c ∈ text, isBare c = true := by
  cases h with
  | bare h =>
    obtain ⟨c, tail, rfl, hbare, -⟩ := bare?_exists_text h
    exact ⟨c :: tail, rfl, hbare⟩
  | string h => cases hs
  | emptyArray h => cases hs
  | array h => cases hs
  | emptyObject h => cases hs
  | object h => cases hs

/-- The start of a whole text starts with no document if the rest of the text holds a character
that stands in strings only. -/
theorem Whole.no_document_before {inside rest : List Char} {v : Json} (h : Whole (inside ++ rest) v)
    {c : Char} (hc : c ∈ rest) (hm : isMark c = false) {d : Json} {left : List Char} :
    ¬ Document (Text.trimStart (Text.trim inside)) d left := by
  intro hdoc
  obtain ⟨-, trail, htrail, -, hwhole⟩ := h.exists_document
  obtain ⟨lead, around, hlead, -, hinside⟩ := Text.exists_around inside
  obtain ⟨text, htext, hsolid, hagain⟩ := hdoc.exists_text
  have hstart : Text.trimStart (inside ++ rest) = text ++ (left ++ around ++ rest) := by
    rw [hinside, htext]
    simp only [List.append_assoc]
    rw [Text.trimStart_blanks_append hlead, Text.trimStart_of_solid_append hsolid]
  rw [hstart] at hwhole
  have hmem : c ∈ left ++ around ++ rest := List.mem_append_right _ hc
  have htrailMem : c ∉ trail := by
    intro hin
    rw [isMark_of_isBlank (htrail c hin)] at hm
    cases hm
  -- a number has no strings, so the whole text would have no such character
  have hstops : startsNumber text = true → Stops (left ++ around ++ rest) := by
    intro hs
    have hs' : startsNumber (text ++ (left ++ around ++ rest)) = true := by
      obtain ⟨⟨x, tail, rfl, -⟩, -⟩ := hsolid
      exact hs
    obtain ⟨bareText, heq, hbare⟩ := hwhole.isBare_of_startsNumber hs'
    have hin : c ∈ bareText ++ trail := by
      rw [← heq]
      exact List.mem_append_right text hmem
    rcases List.mem_append.mp hin with hin | hin
    · rw [isMark_of_isBare (hbare c hin)] at hm
      cases hm
    · exact absurd hin htrailMem
  obtain ⟨-, htrailEq⟩ := hwhole.unique (hagain _ hstops)
  rw [htrailEq] at htrailMem
  exact htrailMem hmem

/-- A document that is read behind a character that stands in strings only, and behind others that
are no quotes and no backslashes, has marks only for names. -/
theorem Whole.names_behind {before quoted inside rest : List Char} {c : Char} {v : Json}
    (h : Whole (before ++ c :: quoted ++ (inside ++ rest)) v) (hm : isMark c = false)
    (hq : ∀ x ∈ c :: quoted, x ≠ '"' ∧ x ≠ '\\') {d : Json} {left : List Char}
    (hd : Document (Text.trimStart (Text.trim inside)) d left) : NamesOf isMark d := by
  obtain ⟨⟨hquote, hback⟩, hquoted⟩ := List.forall_mem_cons.mp hq
  have hwhole := h.wellQuoted
  rw [List.append_assoc] at hwhole
  obtain ⟨place, hplace⟩ := hwhole.exists_place
  have hbehind := (wellQuoted_inside_append hquoted _).mp
    (hplace.inside_of_not_mark hquote hback hm)
  obtain ⟨lead, trail, hlead, -, hinside⟩ := Text.exists_around inside
  have hstart := hbehind.of_append
  rw [hinside, wellQuoted_blanks hlead] at hstart
  exact (hd.names_of_inside hstart.of_append).1

end LintBridge.Json
