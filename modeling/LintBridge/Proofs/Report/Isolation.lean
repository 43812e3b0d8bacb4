import LintBridge.Proofs.Json.Whole
import LintBridge.Proofs.Report.Trailing

/-!
Reports whose texts hold the marks of the envelope.

The envelope is a search for two marks, and a report may quote either of them in its texts. Then the
search takes the quoted mark for its own and cuts the report. What is left is never a report: before
a section mark no document is complete, and behind a banner all that is read has only punctuation
for names. So a quoted mark may cost the report (`translate_isolates`), but it never makes another
one of it (`translate_never_forges`).
-/

namespace LintBridge

theorem Json.mem_of_lookup {name : String} {members : List (String × Json)} {v : Json}
    (h : lookup name members = some v) : (name, v) ∈ members := by
  induction members with
  | nil => cases h
  | cons m members ih =>
    obtain ⟨key, value⟩ := m
    rw [lookup, Option.or_eq_some_iff] at h
    rcases h with h | ⟨-, h⟩
    · exact List.mem_cons_of_mem _ (ih h)
    · split at h
      · next hkey =>
        cases h
        rw [hkey]
        exact List.mem_cons_self
      · cases h

theorem Json.Whole.of_writes {text : List Char} {v : Json} (h : Writes text v) : Whole text v :=
  ⟨[], text, [], by simp, Text.blanks_nil, Text.blanks_nil, by simpa using h [] rfl⟩

namespace Report

/-! ### Quoted marks -/

/-- What stands before a section mark in a whole text is no report. -/
theorem parse_before_mark {inside rest : List Char} {v : Json}
    (h : Json.Whole (inside ++ sectionMark ++ rest) v) (r : Report) :
    parse (Text.trim inside) ≠ .ok r := by
  intro hparse
  obtain ⟨d, source, hfirst, -, -⟩ := parse_eq_ok_iff.mp hparse
  obtain ⟨left, hdoc, -⟩ := firstDocument_eq_ok_iff.mp hfirst
  rw [List.append_assoc] at h
  have hmem : '━' ∈ sectionMark ++ rest := List.mem_append_left _ (by decide)
  exact h.no_document_before hmem (by decide) hdoc

/-- A document with marks only for names holds no report. -/
theorem decode_of_names {d source : Json} (h : Json.NamesOf Json.isMark d)
    (hsource : reported? d = some source) (r : Report) : decode source ≠ .ok r := by
  intro hdecode
  obtain ⟨entries, ⟨members, rfl, hlookup⟩, -⟩ := decode_eq_ok_iff.mp hdecode
  have hnames : Json.NamesOf Json.isMark (.obj members) := by
    cases h with
    | scalar hs => cases d <;> cases hs <;> cases hsource
    | @arr items hitems =>
      cases items with
      | nil => cases hsource
      | cons first more =>
        cases hsource
        exact hitems _ List.mem_cons_self
    | obj hn hv =>
      cases hsource
      exact .obj hn hv
  cases hnames with
  | scalar hs => cases hs
  | obj hn hv =>
    have hd : 'd' ∈ "diagnostics".toList := by decide
    exact absurd (hn _ (Json.mem_of_lookup hlookup) 'd' hd) (by decide)

/-- What stands behind a banner in a whole text is no report. -/
theorem parse_behind_banner {before inside rest : List Char} {v : Json}
    (h : Json.Whole (before ++ banner ++ (inside ++ rest)) v) (r : Report) :
    parse (Text.trim inside) ≠ .ok r := by
  intro hparse
  obtain ⟨d, source, hfirst, hsource, hdecode⟩ := parse_eq_ok_iff.mp hparse
  obtain ⟨left, hdoc, -⟩ := firstDocument_eq_ok_iff.mp hfirst
  have hbanner : banner = 'T' :: banner.tail := by decide
  have hplain : ∀ x ∈ 'T' :: banner.tail, (x != '"' && x != '\\') = true :=
    List.all_eq_true.mp (by decide)
  rw [hbanner] at h
  refine decode_of_names (h.names_behind (by decide) ?_ hdoc) hsource r hdecode
  intro x hx
  simpa using hplain x hx

/-! ### The output of the linter -/

/-- A whole text is told as its report, unless it quotes the banner. -/
theorem translate_whole_iff {owner : Owner} {t : List Char} {v : Json} (h : Json.Whole t v)
    {problems : List Problem} :
    translate owner t = .ok problems ↔
      ¬ banner <:+: t ∧ ∃ r, parse t = .ok r ∧ r.problems owner = problems := by
  rw [translate_eq_ok_iff]
  by_cases hbanner : banner <:+: t
  · obtain ⟨before, inside, rest, rfl, hpayload⟩ := payload_of_banner hbanner
    simp only [hpayload, hbanner, not_true_eq_false, false_and, iff_false]
    rintro ⟨r, hparse, -⟩
    exact parse_behind_banner h r hparse
  · rw [payload_of_no_banner hbanner]
    exact (and_iff_right hbanner).symm

/-- Behind a banner a whole text is told as its report, unless it quotes the section mark. Behind it
there may be nothing, or the mark and whatever the log says. -/
theorem translate_behind_banner_iff {owner : Owner} {t more : List Char} {v : Json}
    (h : Json.Whole t v) (hmore : more = [] ∨ ∃ s, more = sectionMark ++ s)
    {problems : List Problem} :
    translate owner (banner ++ (t ++ more)) = .ok problems ↔
      ¬ sectionMark <:+: t ∧ ∃ r, parse t = .ok r ∧ r.problems owner = problems := by
  rw [translate_eq_ok_iff]
  by_cases hmark : sectionMark <:+: t
  · obtain ⟨inside, rest, rfl, hpayload⟩ := payload_of_mark hmark more
    simp only [hpayload, hmark, not_true_eq_false, false_and, iff_false]
    rintro ⟨r, hparse, -⟩
    exact parse_before_mark h r hparse
  · have hpayload : payload (banner ++ (t ++ more)) = Text.trim t := by
      rcases hmore with rfl | ⟨s, rfl⟩
      · rw [List.append_nil, payload_of_no_mark hmark]
      · exact payload_of_section hmark s
    simp only [hpayload, parse_trim]
    exact (and_iff_right hmark).symm

theorem translate_banner_iff {owner : Owner} {t : List Char} {v : Json} (h : Json.Whole t v)
    {problems : List Problem} :
    translate owner (banner ++ t) = .ok problems ↔
      ¬ sectionMark <:+: t ∧ ∃ r, parse t = .ok r ∧ r.problems owner = problems := by
  rw [← translate_behind_banner_iff h (.inl rfl), List.append_nil]

theorem translate_section_iff {owner : Owner} {t : List Char} {v : Json} (h : Json.Whole t v)
    (s : List Char) {problems : List Problem} :
    translate owner (banner ++ t ++ sectionMark ++ s) = .ok problems ↔
      ¬ sectionMark <:+: t ∧ ∃ r, parse t = .ok r ∧ r.problems owner = problems := by
  rw [← translate_behind_banner_iff h (.inr ⟨s, rfl⟩), List.append_assoc, List.append_assoc]

/-- A report that is alone, or behind the banner, or between the banner and the log, is told as its
problems exactly if it does not quote the mark that would be searched for in it: the banner where it
is alone, and the section mark where it is behind the banner. If it does, an error is told. -/
theorem translate_isolates (owner : Owner) {t : List Char} {v : Json} (ht : Json.Whole t v)
    {r : Report} (hr : parse t = .ok r) :
    ((¬ banner <:+: t → translate owner t = .ok (r.problems owner)) ∧
        (banner <:+: t → ∃ fault, translate owner t = .error fault)) ∧
      ((¬ sectionMark <:+: t → translate owner (banner ++ t) = .ok (r.problems owner)) ∧
        (sectionMark <:+: t → ∃ fault, translate owner (banner ++ t) = .error fault)) ∧
      ∀ s,
        (¬ sectionMark <:+: t →
          translate owner (banner ++ t ++ sectionMark ++ s) = .ok (r.problems owner)) ∧
        (sectionMark <:+: t →
          ∃ fault, translate owner (banner ++ t ++ sectionMark ++ s) = .error fault) := by
  have hfault : ∀ {x : List Char} {quoted : Prop},
      (∀ problems, translate owner x = .ok problems → ¬ quoted) → quoted →
        ∃ fault, translate owner x = .error fault := by
    intro x quoted hno hquoted
    cases hx : translate owner x with
    | error fault => exact ⟨fault, rfl⟩
    | ok problems => exact absurd hquoted (hno problems hx)
  refine ⟨⟨?_, ?_⟩, ⟨?_, ?_⟩, fun s => ⟨?_, ?_⟩⟩
  · exact fun hq => (translate_whole_iff ht).mpr ⟨hq, r, hr, rfl⟩
  · exact hfault fun problems h => ((translate_whole_iff ht).mp h).1
  · exact fun hq => (translate_banner_iff ht).mpr ⟨hq, r, hr, rfl⟩
  · exact hfault fun problems h => ((translate_banner_iff ht).mp h).1
  · exact fun hq => (translate_section_iff ht s).mpr ⟨hq, r, hr, rfl⟩
  · exact hfault fun problems h => ((translate_section_iff ht s).mp h).1

/-- The result for a report of one diagnostic, between the banner and the log. -/
theorem translate_isolates_section :
    translate ⟨"biome", none, none⟩
        (banner ++ Report.write ⟨[⟨"lint", "error", "no", ⟨3, 8, by decide⟩⟩]⟩ ++ sectionMark ++
          "━ summary".toList) =
      .ok [⟨4, 9, .error, "no(lint)", "lint", "biome", none, none⟩] := by
  have hparse := Report.parse_write (r := ⟨[⟨"lint", "error", "no", ⟨3, 8, by decide⟩⟩]⟩)
    (List.forall_mem_singleton.mpr (inRange_of_digits (by decide)))
  have hclean := ((translate_isolates ⟨"biome", none, none⟩
    (Json.Whole.of_writes (Report.writes _)) hparse).2.2 "━ summary".toList).1
  rw [hclean (sectionMark_absent (by decide))]
  decide

/-- A report that quotes the banner. -/
def quotesBanner : Report :=
  ⟨[⟨"lint", "error", String.ofList banner, ⟨0, 1, by decide⟩⟩]⟩

theorem parse_quotesBanner : parse quotesBanner.write = .ok quotesBanner :=
  Report.parse_write (List.forall_mem_singleton.mpr (inRange_of_digits (by decide)))

/-- The report that quotes the banner is a report, but alone it is not told as one. -/
theorem quotesBanner_is_lost :
    Json.Whole quotesBanner.write quotesBanner.toJson ∧
      parse quotesBanner.write = .ok quotesBanner ∧
      ∀ problems, translate ⟨"biome", none, none⟩ quotesBanner.write ≠ .ok problems := by
  have hwhole := Json.Whole.of_writes quotesBanner.writes
  refine ⟨hwhole, parse_quotesBanner, fun problems h => ?_⟩
  have hquoted : banner <:+: quotesBanner.write :=
    ⟨("\x7b\"diagnostics\": [\x7b\"category\": \"lint\", \"severity\": \"error\", " ++
      "\"description\": \"").toList,
      "\", \"location\": \x7b\"span\": [0, 1]\x7d\x7d]\x7d".toList, by cbv⟩
  exact ((translate_whole_iff hwhole).mp h).1 hquoted

/-- Whatever the texts of a whole text quote, alone, behind the banner or between the banner and the
log it is told as the problems of its own report or not at all. -/
theorem translate_never_forges (owner : Owner) {t s x : List Char} {v : Json}
    (ht : Json.Whole t v)
    (hx : x = t ∨ x = banner ++ t ∨ x = banner ++ t ++ sectionMark ++ s)
    {problems : List Problem} (h : translate owner x = .ok problems) :
    ∃ r, parse t = .ok r ∧ r.problems owner = problems := by
  rcases hx with rfl | rfl | rfl
  · exact ((translate_whole_iff ht).mp h).2
  · exact ((translate_banner_iff ht).mp h).2
  · exact ((translate_section_iff ht s).mp h).2

set_option maxRecDepth 2000 in
/-- The report that quotes the banner is told as its problems behind a banner of its own. -/
theorem translate_never_forges_quoted :
    ∃ problems, translate ⟨"biome", none, none⟩ (banner ++ quotesBanner.write) = .ok problems ∧
      ∃ r, parse quotesBanner.write = .ok r ∧ r.problems ⟨"biome", none, none⟩ = problems := by
  have hwhole := Json.Whole.of_writes quotesBanner.writes
  have hclean : ¬ sectionMark <:+: quotesBanner.write := sectionMark_absent (by decide)
  have htold : translate ⟨"biome", none, none⟩ (banner ++ quotesBanner.write) =
      .ok (quotesBanner.problems ⟨"biome", none, none⟩) :=
    (translate_banner_iff hwhole).mpr ⟨hclean, quotesBanner, parse_quotesBanner, rfl⟩
  exact ⟨_, htold, translate_never_forges _ (s := []) hwhole (.inr (.inl rfl)) htold⟩

end Report
end LintBridge
