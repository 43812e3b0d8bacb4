import LintBridge.Proofs.Decimal.Digits
import LintBridge.Proofs.Text.Search
import LintBridge.Proofs.Version
import Mathlib.Order.Bounds.Defs

/-!
The version that a program reports.

`Labelled` says how a text starts that has a version in it: with the label, blanks, and three runs of
digits with points between them. What is reported is the version at the first place where the text
goes on in such a way, its last run as long as it can be; and none is reported only if there is no
such place (`firstLabelled?_eq_some_iff`, `firstLabelled?_eq_none_iff`). Labels without a version
behind them are passed over.
-/

namespace LintBridge.Version

/-- A text that does not carry on a run of digits in front of it. -/
def EndsRun (rest : List Char) : Prop :=
  rest.head?.any Text.isDecimalDigit = false
deriving Decidable

/-- A text that starts with a labelled version. -/
structure Labelled (cs major minor patch rest : List Char) : Prop where
  runs : ∀ run ∈ [major, minor, patch], Decimal.IsRun run
  text : ∃ blanks, Text.Blanks blanks ∧
    cs = label ++ (blanks ++ (major ++ '.' :: (minor ++ '.' :: (patch ++ rest))))

/-- A text that starts with some labelled version. -/
def StartsLabelled (cs : List Char) : Prop :=
  ∃ major minor patch rest, Labelled cs major minor patch rest

/-! ### At the start of a text -/

theorem takeRun?_eq_some_iff {cs run rest : List Char} :
    takeRun? cs = some (run, rest) ↔ Decimal.IsRun run ∧ cs = run ++ rest ∧ EndsRun rest := by
  obtain ⟨hcs, hdigits, hstop⟩ := Decimal.takeWhile_dropWhile_stop Text.isDecimalDigit cs
  constructor
  · intro h
    cases hrun : cs.takeWhile Text.isDecimalDigit with
    | nil => simp [takeRun?, hrun] at h
    | cons c digits =>
      simp only [takeRun?, hrun, Option.some.injEq, Prod.mk.injEq] at h
      obtain ⟨rfl, rfl⟩ := h
      rw [hrun] at hcs hdigits
      exact ⟨⟨List.cons_ne_nil c digits, hdigits⟩, hcs, hstop⟩
  · rintro ⟨hrun, rfl, hrest⟩
    obtain ⟨htake, hdrop⟩ := Decimal.takeWhile_append_of_stop hrun.digits hrest
    obtain ⟨c, digits, rfl⟩ := List.exists_cons_of_ne_nil hrun.ne_nil
    simp only [takeRun?, htake, hdrop]

theorem takeTriple?_eq_some_iff {cs found : List Char} :
    takeTriple? cs = some found ↔
      ∃ major minor patch rest, (∀ run ∈ [major, minor, patch], Decimal.IsRun run) ∧
        cs = major ++ '.' :: (minor ++ '.' :: (patch ++ rest)) ∧ EndsRun rest ∧
          found = major ++ '.' :: minor ++ '.' :: patch := by
  constructor
  · intro h
    simp only [takeTriple?, Option.bind_eq_bind, Option.bind_eq_some_iff, Prod.exists,
      takeRun?_eq_some_iff, Text.isPrefixOf?_eq_some_iff] at h
    obtain ⟨major, _, ⟨hmajor, rfl, -⟩, _, rfl, minor, _, ⟨hminor, rfl, -⟩, _, rfl, patch, rest,
      ⟨hpatch, rfl, hrest⟩, h⟩ := h
    exact ⟨major, minor, patch, rest, by simpa using ⟨hmajor, hminor, hpatch⟩, by simp, hrest,
      (Option.some.inj h).symm⟩
  · rintro ⟨major, minor, patch, rest, hruns, rfl, hrest, rfl⟩
    have hpoint (more : List Char) : EndsRun ('.' :: more) := by
      rw [EndsRun, List.head?_cons, Option.any_some]
      decide
    have hmark (more : List Char) : ['.'].isPrefixOf? ('.' :: more) = some more :=
      Text.isPrefixOf?_append ['.'] more
    rw [takeTriple?, takeRun?_eq_some_iff.mpr ⟨hruns major (by simp), rfl, hpoint _⟩]
    simp only [Option.bind_eq_bind, Option.bind_some, hmark,
      takeRun?_eq_some_iff.mpr ⟨hruns minor (by simp), rfl, hpoint _⟩,
      takeRun?_eq_some_iff.mpr ⟨hruns patch (by simp), rfl, hrest⟩]
    rfl

/-- What is taken behind a label is the version there, with a last run that ends. -/
theorem takeLabelled?_eq_some_iff {cs found : List Char} :
    takeLabelled? cs = some found ↔
      ∃ major minor patch rest, Labelled cs major minor patch rest ∧ EndsRun rest ∧
        found = major ++ '.' :: minor ++ '.' :: patch := by
  constructor
  · intro h
    simp only [takeLabelled?, Option.bind_eq_bind, Option.bind_eq_some_iff,
      Text.isPrefixOf?_eq_some_iff] at h
    obtain ⟨after, rfl, htriple⟩ := h
    obtain ⟨major, minor, patch, rest, hruns, hafter, hrest, hfound⟩ :=
      takeTriple?_eq_some_iff.mp htriple
    obtain ⟨blanks, hblanks, hlead⟩ := Text.exists_trimStart after
    exact ⟨major, minor, patch, rest, ⟨hruns, blanks, hblanks, by rw [← hafter, ← hlead]⟩, hrest,
      hfound⟩
  · rintro ⟨major, minor, patch, rest, ⟨hruns, blanks, hblanks, rfl⟩, hrest, rfl⟩
    have hmajor := hruns major (by simp)
    have hsolid : Text.Solid major := Text.solid_of_forall hmajor.ne_nil fun c hc =>
      Text.isBlank_of_isDecimalDigit (hmajor.digits c hc)
    rw [takeLabelled?, Text.isPrefixOf?_append]
    simp only [Option.bind_eq_bind, Option.bind_some]
    rw [Text.trimStart_blanks_append hblanks, Text.trimStart_of_solid_append hsolid]
    exact takeTriple?_eq_some_iff.mpr ⟨major, minor, patch, rest, hruns, rfl, hrest, rfl⟩

/-- A labelled version can be taken with a last run that ends. -/
theorem exists_takeLabelled?_iff {cs : List Char} :
    (∃ found, takeLabelled? cs = some found) ↔ StartsLabelled cs := by
  constructor
  · rintro ⟨found, h⟩
    obtain ⟨major, minor, patch, rest, hlabelled, -, -⟩ := takeLabelled?_eq_some_iff.mp h
    exact ⟨major, minor, patch, rest, hlabelled⟩
  · rintro ⟨major, minor, patch, rest, hruns, blanks, hblanks, hcs⟩
    obtain ⟨hrest, hdigits, hstop⟩ := Decimal.takeWhile_dropWhile_stop Text.isDecimalDigit rest
    refine ⟨_, takeLabelled?_eq_some_iff.mpr ⟨major, minor,
      patch ++ rest.takeWhile Text.isDecimalDigit, rest.dropWhile Text.isDecimalDigit, ⟨?_, blanks,
      hblanks, ?_⟩, hstop, rfl⟩⟩
    · have hpatch := hruns patch (by simp)
      have hlonger : Decimal.IsRun (patch ++ rest.takeWhile Text.isDecimalDigit) := by
        refine ⟨List.append_ne_nil_of_left_ne_nil hpatch.ne_nil _, fun c hc => ?_⟩
        exact (List.mem_append.mp hc).elim (hpatch.digits c) (hdigits c)
      simpa using ⟨hruns major (by simp), hruns minor (by simp), hlonger⟩
    · rw [hcs, List.append_assoc patch, ← hrest]

theorem takeLabelled?_eq_none_iff {cs : List Char} :
    takeLabelled? cs = none ↔ ¬ StartsLabelled cs := by
  rw [← exists_takeLabelled?_iff, Option.eq_none_iff_forall_ne_some, not_exists]

/-! ### The first place -/

theorem takeLabelled?_nil : takeLabelled? [] = none := by
  decide

theorem firstLabelled?_eq_none_iff {cs : List Char} :
    firstLabelled? cs = none ↔ ∀ i, ¬ StartsLabelled (cs.drop i) := by
  induction cs with
  | nil => simp [firstLabelled?, ← takeLabelled?_eq_none_iff, takeLabelled?_nil]
  | cons c cs ih =>
    rw [firstLabelled?, Option.or_eq_none_iff, ih, takeLabelled?_eq_none_iff]
    constructor
    · rintro ⟨hhere, hlater⟩ i
      cases i with
      | zero => exact hhere
      | succ i => exact hlater i
    · exact fun h => ⟨h 0, fun i => h (i + 1)⟩

theorem firstLabelled?_eq_some_iff {cs found : List Char} :
    firstLabelled? cs = some found ↔
      ∃ i, IsLeast {i | StartsLabelled (cs.drop i)} i ∧ takeLabelled? (cs.drop i) = some found := by
  induction cs with
  | nil => simp [firstLabelled?, takeLabelled?_nil]
  | cons c cs ih =>
    rw [firstLabelled?, Option.or_eq_some_iff, ih]
    constructor
    · rintro (hhere | ⟨hnone, i, ⟨hstarts, hleast⟩, hfound⟩)
      · exact ⟨0, ⟨exists_takeLabelled?_iff.mp ⟨found, hhere⟩, fun _ _ => Nat.zero_le _⟩, hhere⟩
      · refine ⟨i + 1, ⟨hstarts, fun j hj => ?_⟩, hfound⟩
        cases j with
        | zero => exact absurd hj (takeLabelled?_eq_none_iff.mp hnone)
        | succ j => exact Nat.succ_le_succ (hleast hj)
    · rintro ⟨i, ⟨hstarts, hleast⟩, hfound⟩
      cases i with
      | zero => exact .inl hfound
      | succ i =>
        refine .inr ⟨takeLabelled?_eq_none_iff.mpr fun h => ?_, i, ⟨hstarts, fun j hj => ?_⟩, hfound⟩
        · exact absurd (hleast (a := 0) h) (Nat.not_succ_le_zero i)
        · exact Nat.le_of_succ_le_succ (hleast (a := j + 1) hj)

/-! ### Reports -/

/-- The version that is reported stands at the first place where a labelled version starts, and its
last run is as long as it can be. -/
theorem reported?_eq_some_iff {report version : String} :
    reported? report = some version ↔
      ∃ i, IsLeast {i | StartsLabelled (report.toList.drop i)} i ∧
        ∃ major minor patch rest, Labelled (report.toList.drop i) major minor patch rest ∧
          EndsRun rest ∧ version = dotted major minor patch := by
  rw [reported?, Option.map_eq_some_iff]
  constructor
  · rintro ⟨found, hfound, rfl⟩
    obtain ⟨i, hleast, hlabelled⟩ := firstLabelled?_eq_some_iff.mp hfound
    obtain ⟨major, minor, patch, rest, h, hrest, rfl⟩ := takeLabelled?_eq_some_iff.mp hlabelled
    exact ⟨i, hleast, major, minor, patch, rest, h, hrest, rfl⟩
  · rintro ⟨i, hleast, major, minor, patch, rest, h, hrest, rfl⟩
    exact ⟨_, firstLabelled?_eq_some_iff.mpr ⟨i, hleast,
      takeLabelled?_eq_some_iff.mpr ⟨major, minor, patch, rest, h, hrest, rfl⟩⟩, rfl⟩

theorem reported?_eq_none_iff {report : String} :
    reported? report = none ↔ ∀ i, ¬ StartsLabelled (report.toList.drop i) := by
  rw [reported?, Option.map_eq_none_iff, firstLabelled?_eq_none_iff]

/-- A version that is reported is one of three runs of digits. -/
theorem runs_of_reported {report version : String} (h : reported? report = some version) :
    ∃ major minor patch, (∀ run ∈ [major, minor, patch], Decimal.IsRun run) ∧
      version = dotted major minor patch := by
  obtain ⟨i, -, major, minor, patch, rest, hlabelled, -, rfl⟩ := reported?_eq_some_iff.mp h
  exact ⟨major, minor, patch, hlabelled.runs, rfl⟩

/-! ### Written versions -/

theorem isRun_toString {n : Int} (h : 0 ≤ n) : Decimal.IsRun (toString n).toList :=
  ⟨Decimal.toString_ne_nil n, fun c hc =>
    Text.isDecimalDigit_of_isDigit (Decimal.forall_isDigit_toString_iff.mpr h c hc)⟩

/-- No label starts in front of the one that is put behind a text without a label. -/
theorem length_le_of_label {front after : List Char} (hfront : ¬ label <:+: front) {i : Nat}
    (h : StartsLabelled ((front ++ label ++ after).drop i)) : front.length ≤ i := by
  obtain ⟨major, minor, patch, rest, -, blanks, -, hdrop⟩ := h
  obtain ⟨more, hmore⟩ : label <+: (front ++ label ++ after).drop i := ⟨_, hdrop.symm⟩
  have hbreak : Text.breakAt? label (front ++ label ++ after) = some (front, after) :=
    @Text.breakAt?_of_absent 'V' "ersion:".toList front (by decide) hfront after
  have hsplit : front ++ label ++ after = (front ++ label ++ after).take i ++ label ++ more := by
    rw [List.append_assoc _ label more, hmore, List.take_append_drop]
  have hle := (Text.breakAt?_eq_some_iff.mp hbreak).least _ _ hsplit
  rw [List.length_take] at hle
  omega

/-- A written version is found behind a label, whatever stands before the label and behind the
version. -/
theorem reported?_label_text {v : Version} (h : v.IsRelease) {front blanks behind : List Char}
    (hfront : ¬ label <:+: front) (hblanks : Text.Blanks blanks) (hbehind : EndsRun behind) :
    reported? (String.ofList (front ++ label ++ (blanks ++ (v.text.toList ++ behind)))) =
      some v.text := by
  have hlabelled : Labelled ((front ++ label ++ (blanks ++ (v.text.toList ++ behind))).drop
      front.length) (toString v.major).toList (toString v.minor).toList (toString v.patch).toList
      behind := by
    rw [List.append_assoc, List.drop_left]
    refine ⟨?_, blanks, hblanks, ?_⟩
    · simpa using ⟨isRun_toString h.major, isRun_toString h.minor, isRun_toString h.patch⟩
    · simp [text_eq_dotted, dotted]
  rw [reported?_eq_some_iff, String.toList_ofList]
  exact ⟨front.length, ⟨⟨_, _, _, _, hlabelled⟩, fun i hi => length_le_of_label hfront hi⟩, _, _, _,
    behind, hlabelled, hbehind, text_eq_dotted v⟩

/-- What is reported is the version at the first place where a labelled version starts, its last run
as long as it can be, and nothing is reported only if there is no such place. What is reported is
read with the values of its runs if none of them is longer than a numeral may be. So a written
version of numbers that are not negative is found and read again, from behind a label and blanks,
whatever stands around them, if its numbers have no more digits than a numeral may have. -/
theorem reported?_is_first_labelled (report : String) :
    (∀ version, reported? report = some version ↔
      ∃ i, IsLeast {i | StartsLabelled (report.toList.drop i)} i ∧
        ∃ major minor patch rest, Labelled (report.toList.drop i) major minor patch rest ∧
          EndsRun rest ∧ version = dotted major minor patch) ∧
      (reported? report = none ↔ ∀ i, ¬ StartsLabelled (report.toList.drop i)) ∧
      (∀ version, reported? report = some version → ∃ major minor patch,
        (∀ run ∈ [major, minor, patch], Decimal.IsRun run) ∧ version = dotted major minor patch ∧
          (ofRuns major minor patch).IsRelease ∧
          ((∀ run ∈ [major, minor, patch], run.length ≤ Decimal.maxDigits) →
            parse version = .ok (ofRuns major minor patch))) ∧
      ∀ v : Version, v.IsRelease → ∀ front blanks behind, ¬ label <:+: front →
        Text.Blanks blanks → EndsRun behind →
          reported? (String.ofList (front ++ label ++ (blanks ++ (v.text.toList ++ behind)))) =
              some v.text ∧
            (v.InRange → parse v.text = .ok v) := by
  refine ⟨fun version => reported?_eq_some_iff, reported?_eq_none_iff, fun version h => ?_,
    fun v hv front blanks behind hfront hblanks hbehind =>
      ⟨reported?_label_text hv hfront hblanks hbehind, parse_text⟩⟩
  obtain ⟨major, minor, patch, hruns, rfl⟩ := runs_of_reported h
  refine ⟨major, minor, patch, hruns, rfl, isRelease_ofRuns major minor patch, fun hlen => ?_⟩
  rcases parse_runs hruns with ⟨run, hrun, hlong, -⟩ | ⟨-, hparse⟩
  · exact absurd (hlen run hrun) (Nat.not_le.mpr hlong)
  · exact hparse

/-- Behind a number that has no label, and in front of more letters. -/
theorem reported?_is_first_labelled_in_beta :
    (⟨1, 6, 0⟩ : Version).IsRelease ∧ ¬ label <:+: "biome 1.5.9: ".toList ∧
      reported? "biome 1.5.9: Version: 1.6.0-beta" = some "1.6.0" ∧
      parse "1.6.0" = .ok ⟨1, 6, 0⟩ := by
  have hrelease : (⟨1, 6, 0⟩ : Version).IsRelease := ⟨by decide, by decide, by decide⟩
  have hfront : ¬ label <:+: "biome 1.5.9: ".toList := by decide +kernel
  have hblanks : Text.Blanks [' '] := by
    intro c hc
    rw [List.mem_singleton.mp hc]
    decide
  have hsmall {n : Nat} (h : n < 10) : n < 10 ^ Decimal.maxDigits :=
    h.trans_le (Nat.le_self_pow (by decide) 10)
  have htext : (⟨1, 6, 0⟩ : Version).text = "1.6.0" := by decide +kernel
  have hreport : String.ofList ("biome 1.5.9: ".toList ++ label ++
      ([' '] ++ ("1.6.0".toList ++ "-beta".toList))) = "biome 1.5.9: Version: 1.6.0-beta" := by
    decide +kernel
  obtain ⟨-, -, -, hwritten⟩ := reported?_is_first_labelled "biome 1.5.9: Version: 1.6.0-beta"
  obtain ⟨hreported, hparse⟩ := hwritten ⟨1, 6, 0⟩ hrelease "biome 1.5.9: ".toList [' ']
    "-beta".toList hfront hblanks (by decide)
  rw [htext] at hreported hparse
  rw [hreport] at hreported
  exact ⟨hrelease, hfront, hreported,
    hparse ⟨hsmall (by decide), hsmall (by decide), hsmall (by decide)⟩⟩

/-! ### A number that is too long -/

theorem length_toString_pow {k : Nat} (hk : 0 < k) :
    (toString ((10 ^ k : Nat) : Int)).toList.length = k + 1 := by
  rw [Decimal.toList_toString, if_neg (Int.not_lt.mpr (Int.natCast_nonneg _)), Int.natAbs_natCast]
  refine Nat.le_antisymm ((Nat.length_toDigits_le_iff (by decide) (Nat.succ_pos k)).mpr ?_)
    (Nat.lt_of_not_le fun hle => ?_)
  · exact Nat.pow_lt_pow_right (by decide) (Nat.lt_succ_self k)
  · exact Nat.lt_irrefl _ ((Nat.length_toDigits_le_iff (by decide) hk).mp hle)

/-- A written version whose first number is too long is refused for it. -/
theorem parse_text_of_tooLong {v : Version} (h : v.IsRelease)
    (hlong : Decimal.maxDigits < (toString v.major).toList.length) :
    parse v.text = .error (.badNumber (.tooLong (toString v.major).toList.length)) := by
  rw [text_eq_dotted, parse_dotted (isPart_of_text v), readNumber_run (isRun_toString h.major),
    if_pos hlong]
  rfl

theorem ofList_label : String.ofList label = "Version:" :=
  String.ofList_toList

/-- A written version is found right behind a label. -/
theorem reported?_label_text_only {v : Version} (h : v.IsRelease) :
    reported? ("Version:" ++ v.text) = some v.text := by
  have hfront : ¬ label <:+: [] := by
    rw [List.infix_nil]
    decide
  have hreport := reported?_label_text h hfront Text.blanks_nil (show EndsRun [] from rfl)
  rwa [List.append_nil, List.nil_append, List.nil_append, String.ofList_append,
    String.ofList_toList, ofList_label] at hreport

/-- A version whose first number has one digit more than a numeral may have. -/
def overlong : Version :=
  ⟨(10 ^ Decimal.maxDigits : Nat), 0, 0⟩

/-- The version is found where it was written, and it is not read again. -/
theorem overlong_is_not_read :
    overlong.IsRelease ∧ reported? ("Version:" ++ overlong.text) = some overlong.text ∧
      parse overlong.text = .error (.badNumber (.tooLong 4301)) := by
  have hrelease : overlong.IsRelease := ⟨Int.natCast_nonneg _, Int.le_refl 0, Int.le_refl 0⟩
  have hlength : (toString overlong.major).toList.length = 4301 :=
    length_toString_pow (k := Decimal.maxDigits) (by decide)
  have hlong : Decimal.maxDigits < (toString overlong.major).toList.length := by
    rw [hlength]
    decide
  have hparse := parse_text_of_tooLong hrelease hlong
  rw [hlength] at hparse
  exact ⟨hrelease, reported?_label_text_only hrelease, hparse⟩

end LintBridge.Version
