import LintBridge.Proofs.Decimal.Integer
import LintBridge.Proofs.Machine.Ran
import LintBridge.Proofs.Text.Blank
import LintBridge.Version

/-!
Versions that have been read, and the gate for them.

Whatever text a version is read from, its numbers can be written and read again, so its written form
is a version too (`parse_text`). The gate asks for more than that: it takes releases only, and a
version with a negative number is none (`isSupported_runs`).
-/

namespace LintBridge.Version

/-- The numbers of a version have no more digits than a numeral may have. -/
structure InRange (v : Version) : Prop where
  major : v.major.natAbs < 10 ^ Decimal.maxDigits
  minor : v.minor.natAbs < 10 ^ Decimal.maxDigits
  patch : v.patch.natAbs < 10 ^ Decimal.maxDigits

/-- No number of a version is negative. -/
structure IsRelease (v : Version) : Prop where
  major : 0 ≤ v.major
  minor : 0 ≤ v.minor
  patch : 0 ≤ v.patch

/-! ### Reading -/

theorem readNumber_eq_ok_iff {cs : List Char} {n : Int} :
    readNumber cs = .ok n ↔ Decimal.readInteger cs = .ok n := by
  unfold readNumber
  split <;> simp_all

theorem parse_eq_ok_iff {text : String} {v : Version} :
    parse text = .ok v ↔
      ∃ a b c, Text.splitAt '.' (Text.trim text.toList) = [a, b, c] ∧
        Decimal.readInteger a = .ok v.major ∧ Decimal.readInteger b = .ok v.minor ∧
          Decimal.readInteger c = .ok v.patch := by
  constructor
  · intro h
    unfold parse at h
    split at h
    · next a b c hparts =>
      obtain ⟨major, ha, h⟩ := Ran.except_bind_eq_ok.mp h
      obtain ⟨minor, hb, h⟩ := Ran.except_bind_eq_ok.mp h
      obtain ⟨patch, hc, h⟩ := Ran.except_bind_eq_ok.mp h
      cases h
      exact ⟨a, b, c, hparts, readNumber_eq_ok_iff.mp ha, readNumber_eq_ok_iff.mp hb,
        readNumber_eq_ok_iff.mp hc⟩
    · cases h
  · rintro ⟨a, b, c, hparts, ha, hb, hc⟩
    rw [parse, hparts]
    simp only [readNumber_eq_ok_iff.mpr ha, readNumber_eq_ok_iff.mpr hb, readNumber_eq_ok_iff.mpr hc]
    rfl

theorem inRange_of_parse {text : String} {v : Version} (h : parse text = .ok v) : v.InRange := by
  obtain ⟨a, b, c, -, ha, hb, hc⟩ := parse_eq_ok_iff.mp h
  exact ⟨Decimal.natAbs_lt_of_readInteger ha, Decimal.natAbs_lt_of_readInteger hb,
    Decimal.natAbs_lt_of_readInteger hc⟩

/-! ### Three parts with points between them -/

/-- A text that can stand between the points of a version: it holds no blank and no point. -/
structure IsPart (part : List Char) : Prop where
  ne_nil : part ≠ []
  solid : ∀ c ∈ part, Text.isBlank c = false
  point_notMem : '.' ∉ part

theorem isPart_of_isRun {run : List Char} (h : Decimal.IsRun run) : IsPart run where
  ne_nil := h.ne_nil
  solid c hc := Text.isBlank_of_isDecimalDigit (h.digits c hc)
  point_notMem hc := absurd (h.digits '.' hc) (by decide)

theorem isPart_toString (n : Int) : IsPart (toString n).toList where
  ne_nil := Decimal.toString_ne_nil n
  solid c hc := by
    rcases Decimal.mem_toString hc with rfl | hdigit
    · rfl
    · exact Text.isBlank_of_isDecimalDigit (Text.isDecimalDigit_of_isDigit hdigit)
  point_notMem hc := by
    rcases Decimal.mem_toString hc with heq | hdigit
    · cases heq
    · cases hdigit

/-- The text of a version of three parts. -/
def dotted (major minor patch : List Char) : String :=
  String.ofList (major ++ '.' :: minor ++ '.' :: patch)

variable {major minor patch : List Char}

theorem splitAt_dotted (h : ∀ part ∈ [major, minor, patch], IsPart part) :
    Text.splitAt '.' (dotted major minor patch).toList = [major, minor, patch] := by
  have htext : (dotted major minor patch).toList = ['.'].intercalate [major, minor, patch] := by
    simp [dotted, List.intercalate, List.intersperse]
  rw [htext, Text.splitAt_eq_splitOn]
  exact List.splitOn_intercalate '.' (fun part hpart => (h part hpart).point_notMem) (by simp)

theorem trim_dotted (h : ∀ part ∈ [major, minor, patch], IsPart part) :
    Text.trim (dotted major minor patch).toList = (dotted major minor patch).toList := by
  have hmajor := h major (by simp)
  have hpatch := h patch (by simp)
  have hwhole : Text.Solid (major ++ ('.' :: minor ++ ['.'] ++ patch)) :=
    (Text.solid_of_forall hmajor.ne_nil hmajor.solid).between _
      (Text.solid_of_forall hpatch.ne_nil hpatch.solid)
  simpa [dotted] using Text.trim_of_solid Text.blanks_nil hwhole Text.blanks_nil

/-- The parts of a version are read one after the other. -/
theorem parse_dotted (h : ∀ part ∈ [major, minor, patch], IsPart part) :
    parse (dotted major minor patch) =
      (readNumber major).bind fun a => (readNumber minor).bind fun b =>
        (readNumber patch).bind fun c => .ok ⟨a, b, c⟩ := by
  rw [parse, trim_dotted h, splitAt_dotted h]
  rfl

/-- The parts of a written version are its written numbers. -/
theorem text_eq_dotted (v : Version) :
    v.text = dotted (toString v.major).toList (toString v.minor).toList
      (toString v.patch).toList := by
  rw [← String.toList_inj, dotted, String.toList_ofList, text]
  simp

theorem isPart_of_text (v : Version) :
    ∀ part ∈ [(toString v.major).toList, (toString v.minor).toList, (toString v.patch).toList],
      IsPart part := by
  simpa using ⟨isPart_toString v.major, isPart_toString v.minor, isPart_toString v.patch⟩

/-- A version that has been read is read again from its written form. -/
theorem parse_text {v : Version} (h : v.InRange) : parse v.text = .ok v := by
  rw [text_eq_dotted, parse_dotted (isPart_of_text v),
    readNumber_eq_ok_iff.mpr (Decimal.readInteger_toString h.major),
    readNumber_eq_ok_iff.mpr (Decimal.readInteger_toString h.minor),
    readNumber_eq_ok_iff.mpr (Decimal.readInteger_toString h.patch)]
  rfl

/-! ### Three runs of digits -/

theorem readNumber_run {run : List Char} (h : Decimal.IsRun run) :
    readNumber run =
      if Decimal.maxDigits < run.length then .error (.badNumber (.tooLong run.length))
      else .ok (Decimal.scriptValue run : Int) := by
  have hread : Decimal.readInteger run = _ := Decimal.readInteger_run h false
  rw [readNumber, hread]
  by_cases hlong : Decimal.maxDigits < run.length
  · rw [if_pos hlong, if_pos hlong]
  · rw [if_neg hlong, if_neg hlong]
    rfl

/-- The release of three runs of digits. -/
def ofRuns (major minor patch : List Char) : Version :=
  ⟨Decimal.scriptValue major, Decimal.scriptValue minor, Decimal.scriptValue patch⟩

theorem isRelease_ofRuns (major minor patch : List Char) : (ofRuns major minor patch).IsRelease :=
  ⟨Int.natCast_nonneg _, Int.natCast_nonneg _, Int.natCast_nonneg _⟩

/-- Runs of digits are read with their values, or refused because one of them is too long. -/
theorem parse_runs (h : ∀ run ∈ [major, minor, patch], Decimal.IsRun run) :
    (∃ run ∈ [major, minor, patch], Decimal.maxDigits < run.length ∧
      parse (dotted major minor patch) = .error (.badNumber (.tooLong run.length))) ∨
    (∀ run ∈ [major, minor, patch], run.length ≤ Decimal.maxDigits) ∧
      parse (dotted major minor patch) = .ok (ofRuns major minor patch) := by
  rw [parse_dotted fun part hpart => isPart_of_isRun (h part hpart),
    readNumber_run (h major (by simp)), readNumber_run (h minor (by simp)),
    readNumber_run (h patch (by simp))]
  by_cases hmajor : Decimal.maxDigits < major.length
  · exact .inl ⟨major, by simp, hmajor, by rw [if_pos hmajor]; rfl⟩
  by_cases hminor : Decimal.maxDigits < minor.length
  · exact .inl ⟨minor, by simp, hminor, by rw [if_neg hmajor, if_pos hminor]; rfl⟩
  by_cases hpatch : Decimal.maxDigits < patch.length
  · exact .inl ⟨patch, by simp, hpatch, by rw [if_neg hmajor, if_neg hminor, if_pos hpatch]; rfl⟩
  refine .inr ⟨by simpa using
    ⟨Nat.le_of_not_lt hmajor, Nat.le_of_not_lt hminor, Nat.le_of_not_lt hpatch⟩, ?_⟩
  rw [if_neg hmajor, if_neg hminor, if_neg hpatch]
  rfl

/-! ### The gate -/

/-- The parts of a written version are those of a release exactly if none of its numbers is
negative. -/
theorem isRelease_iff_parts (v : Version) :
    v.IsRelease ↔
      [(toString v.major).toList, (toString v.minor).toList, (toString v.patch).toList].all
        (fun part => !part.isEmpty && part.all Char.isDigit) = true := by
  have hpart (n : Int) : 0 ≤ n ↔
      (!(toString n).toList.isEmpty && (toString n).toList.all Char.isDigit) = true := by
    have hne := List.isEmpty_eq_false_iff.mpr (Decimal.toString_ne_nil n)
    rw [← Decimal.forall_isDigit_toString_iff, hne, Bool.not_false, Bool.true_and, List.all_eq_true]
  simp only [List.all_cons, List.all_nil, Bool.and_true, Bool.and_eq_true, ← hpart]
  exact ⟨fun h => ⟨h.major, h.minor, h.patch⟩, fun h => ⟨h.1, h.2.1, h.2.2⟩⟩

/-- The numbers of a version that has no negative ones. -/
def numbers (v : Version) : List Nat :=
  [v.major.toNat, v.minor.toNat, v.patch.toNat]

/-- A version without negative numbers is written as the release of its numbers. -/
theorem readRelease_text {v : Version} (h : v.IsRelease) (hrange : v.InRange) :
    readRelease v.text = .ok (dropZeros v.numbers) := by
  rw [readRelease, text_eq_dotted, splitAt_dotted (isPart_of_text v),
    if_pos ((isRelease_iff_parts v).mp h)]
  simp only [List.mapM_cons, List.mapM_nil,
    readNumber_eq_ok_iff.mpr (Decimal.readInteger_toString hrange.major),
    readNumber_eq_ok_iff.mpr (Decimal.readInteger_toString hrange.minor),
    readNumber_eq_ok_iff.mpr (Decimal.readInteger_toString hrange.patch)]
  rfl

theorem readRelease_text_eq_error {v : Version} (h : ¬ v.IsRelease) :
    readRelease v.text = .error (.negative v.text) := by
  have hparts := (isRelease_iff_parts v).not.mp h
  rw [readRelease, text_eq_dotted, splitAt_dotted (isPart_of_text v), if_neg hparts]

/-- The gate compares the releases that two versions spell when they are written again. -/
theorem isSupported_of_parse {installed minimum : String} {v w : Version}
    (hv : parse installed = .ok v) (hw : parse minimum = .ok w) :
    isSupported installed minimum =
      (readRelease v.text).bind fun numbers => (readRelease w.text).bind fun least =>
        .ok (releaseLe least numbers) := by
  rw [isSupported, hv, hw]
  rfl

/-- What the gate says of an installed version of digits: it refuses a number that is too long and a
minimum that is no release, and compares everything else. -/
theorem isSupported_runs (h : ∀ run ∈ [major, minor, patch], Decimal.IsRun run) {minimum : String}
    {w : Version} (hw : parse minimum = .ok w) :
    (∃ run ∈ [major, minor, patch], Decimal.maxDigits < run.length ∧
      isSupported (dotted major minor patch) minimum =
        .error (.badNumber (.tooLong run.length))) ∨
    (∀ run ∈ [major, minor, patch], run.length ≤ Decimal.maxDigits) ∧
      (¬ w.IsRelease ∧
        isSupported (dotted major minor patch) minimum = .error (.negative w.text) ∨
      w.IsRelease ∧ ∃ b, isSupported (dotted major minor patch) minimum = .ok b) := by
  rcases parse_runs h with ⟨run, hrun, hlong, hparse⟩ | ⟨hlen, hparse⟩
  · refine .inl ⟨run, hrun, hlong, ?_⟩
    rw [isSupported, hparse]
    rfl
  · refine .inr ⟨hlen, ?_⟩
    rw [isSupported_of_parse hparse hw,
      readRelease_text (isRelease_ofRuns major minor patch) (inRange_of_parse hparse)]
    by_cases hr : w.IsRelease
    · refine .inr ⟨hr, releaseLe (dropZeros w.numbers)
        (dropZeros (ofRuns major minor patch).numbers), ?_⟩
      rw [readRelease_text hr (inRange_of_parse hw)]
      rfl
    · refine .inl ⟨hr, ?_⟩
      rw [readRelease_text_eq_error hr]
      rfl

end LintBridge.Version
