import LintBridge.Proofs.Settings.Precedence

/-!
Settings that have been checked, checked again.

What passes a check is well-formed: the texts that must not be blank are not, the time is above
zero, and the minimum version is the written form of a version (`isWellFormed_of_check`). Settings
that are well-formed pass as they are (`check_given`). So a check changes nothing that it has let
pass, and the settings that it can give are exactly those that are well-formed (`exists_check_iff`).
-/

namespace LintBridge.Settings

variable {values : List (String × Given)} {s : Settings} {value : Given} {text : String}

/-! ### Settings as named values -/

/-- A text as it is given for a setting. -/
def Given.ofText (text : String) : Given :=
  if text.toList.any Text.isHalf then .brokenText text else .text text

/-- A time as it is given for a setting. -/
def Given.ofTimeout : Option Decimal.Binary64 → Given
  | .some x => .real x
  | .none => .none

/-- The settings as values that are given for their names. -/
def given (s : Settings) : List (String × Given) :=
  [ ("executable", .ofText s.executable), ("version_flag", .ofText s.versionFlag),
    ("min_version", .ofText s.minVersion), ("subcommand", .ofText s.subcommand),
    ("reporter_flag", .ofText s.reporterFlag), ("primary_config", .ofText s.markers.primary),
    ("secondary_config", .ofText s.markers.secondary),
    ("dependency_dir", .ofText s.markers.dependencies), ("timeout", .ofTimeout s.timeout),
    ("checker_name", .ofText s.checkerName) ]

/-- Whether a text has a character that is no blank. -/
def IsFilled (text : String) : Prop :=
  ∃ c ∈ text.toList, Text.isBlank c = false

/-- What is known of settings that have been checked. -/
structure IsWellFormed (s : Settings) : Prop where
  executable : IsFilled s.executable
  subcommand : IsFilled s.subcommand
  checkerName : IsFilled s.checkerName
  timeout : ∀ x ∈ s.timeout, x.isPositive = true
  minVersion : ∃ v : Version, Version.parse s.minVersion = .ok v ∧ v.text = s.minVersion

/-! ### Single values -/

theorem isFilled_iff_trim : IsFilled text ↔ Text.trim text.toList ≠ [] := by
  rw [Ne, Text.trim_eq_nil_iff, Text.Blanks]
  simp [IsFilled]

theorem checkText_ofText (text : String) : checkText (.ofText text) = .ok text := by
  unfold Given.ofText
  split <;> rfl

theorem checkFilled_eq_ok_iff :
    checkFilled value = .ok text ↔ checkText value = .ok text ∧ IsFilled text := by
  rw [checkFilled, Checked.andThen_eq_ok, isFilled_iff_trim]
  constructor
  · rintro ⟨t, ht, h⟩
    split at h
    · cases h
    · next hne =>
      cases h
      exact ⟨ht, hne⟩
  · rintro ⟨ht, hne⟩
    exact ⟨text, ht, if_neg hne⟩

theorem isPositive_of_checkTimeout {timeout : Option Decimal.Binary64}
    (h : checkTimeout value = .ok timeout) : ∀ x ∈ timeout, x.isPositive = true := by
  unfold checkTimeout at h
  split at h
  · cases h
    simp
  · split at h
    · split at h
      · next hpositive =>
        cases h
        simpa using hpositive
      · cases h
    · cases h

theorem checkTimeout_ofTimeout {timeout : Option Decimal.Binary64}
    (h : ∀ x ∈ timeout, x.isPositive = true) : checkTimeout (.ofTimeout timeout) = .ok timeout := by
  cases timeout with
  | none => rfl
  | some x => exact if_pos (h x rfl)

theorem checkFilled_ofText (h : IsFilled text) : checkFilled (.ofText text) = .ok text :=
  checkFilled_eq_ok_iff.mpr ⟨checkText_ofText text, h⟩

/-- The written form of a version is not changed by its check. -/
theorem checkVersion_ofText {v : Version} (hparse : Version.parse text = .ok v)
    (htext : v.text = text) : checkVersion (.ofText text) = .ok text :=
  checkVersion_eq_ok_iff.mpr ⟨text, v, checkText_ofText text, hparse, htext⟩

/-! ### All settings -/

theorem isFilled_of_setting {name standard : String} (hstandard : IsFilled standard)
    (h : setting values name standard checkFilled = .ok text) : IsFilled text :=
  of_setting h hstandard fun _ _ hcheck => (checkFilled_eq_ok_iff.mp hcheck).2

/-- Settings that pass a check are well-formed. -/
theorem isWellFormed_of_check (h : check values = .ok s) : s.IsWellFormed := by
  obtain ⟨hexecutable, -, -, hsubcommand, -, -, htimeout, hname, -⟩ := check_eq_ok_iff.mp h
  obtain ⟨v, hparse, htext⟩ := parse_minVersion h
  refine ⟨?executable, ?subcommand, ?checkerName, ?timeout, v, hparse, htext.symm⟩
  case executable => exact isFilled_of_setting ⟨'b', by decide, by decide⟩ hexecutable
  case subcommand => exact isFilled_of_setting ⟨'l', by decide, by decide⟩ hsubcommand
  case checkerName => exact isFilled_of_setting ⟨'b', by decide, by decide⟩ hname
  case timeout =>
    exact of_setting (P := fun timeout => ∀ x ∈ timeout, x.isPositive = true) htimeout
      (by simp [standard]) fun _ _ => isPositive_of_checkTimeout

/-- Well-formed settings pass a check as they are. -/
theorem check_given (h : s.IsWellFormed) : check s.given = .ok s := by
  obtain ⟨v, hparse, htext⟩ := h.minVersion
  refine check_eq_ok_iff_validates.mpr ⟨?_, by simp [given, names]⟩
  exact {
    executable := checkFilled_ofText h.executable
    versionFlag := checkText_ofText _
    minVersion := checkVersion_ofText hparse htext
    subcommand := checkFilled_ofText h.subcommand
    reporterFlag := checkText_ofText _
    primary := checkText_ofText _
    secondary := checkText_ofText _
    dependencies := checkText_ofText _
    timeout := checkTimeout_ofTimeout h.timeout
    checkerName := checkFilled_ofText h.checkerName }

/-- Settings come out of a check exactly if they are well-formed. -/
theorem exists_check_iff : (∃ values, check values = .ok s) ↔ s.IsWellFormed :=
  ⟨fun ⟨_, h⟩ => isWellFormed_of_check h, fun h => ⟨_, check_given h⟩⟩

/-! ### The minimum version -/

/-- The minimum version is the written form of the version that the given text spells, or the
standard text if none is given. -/
def KeepsVersion (values : List (String × Given)) (s : Settings) : Prop :=
  ∃ text v, Yields checkText standard.minVersion (List.lookup "min_version" values) text ∧
    Version.parse text = .ok v ∧ Version.parse s.minVersion = .ok v ∧ s.minVersion = v.text

theorem keepsVersion_of_check (h : check values = .ok s) : KeepsVersion values s := by
  have hyields := (check_eq_ok_iff_validates.mp h).1.minVersion
  unfold KeepsVersion
  cases hgiven : List.lookup "min_version" values with
  | none =>
    rw [hgiven] at hyields
    have hstandard : s.minVersion = standard.minVersion := hyields
    refine ⟨standard.minVersion, ⟨1, 6, 0⟩, rfl, ?_⟩
    rw [hstandard]
    decide +kernel
  | some given =>
    rw [hgiven] at hyields
    obtain ⟨text, v, htext, hparse, hwritten⟩ := checkVersion_eq_ok_iff.mp hyields
    refine ⟨text, v, htext, hparse, ?_, hwritten.symm⟩
    rw [← hwritten, Version.parse_text (Version.inRange_of_parse hparse)]

/-! ### Checked again -/

/-- Settings that pass a check, be they given or loaded, are well-formed: executable, subcommand and
name are more than blanks, the time is above zero if there is one, and the minimum version is the
written form of the version that the given text spells. Given once more, they pass unchanged. This
is so because every version whose numbers are not too long is read again from its written form, and
no other version is read from any text. -/
theorem checked_settings_are_stable :
    (∀ values s, check values = .ok s →
      s.IsWellFormed ∧ KeepsVersion values s ∧ check s.given = .ok s) ∧
    (∀ m root environment s, load m root environment = .ok s →
      s.IsWellFormed ∧ check s.given = .ok s ∧
        ∃ values, fileValues m (projectFile m root) = .ok values ∧
          KeepsVersion (withVariable environment values) s) ∧
    (∀ v : Version, v.InRange → Version.parse v.text = .ok v) ∧
    ∀ text v, Version.parse text = .ok v → v.InRange ∧ Version.parse v.text = .ok v := by
  refine ⟨?given, ?loaded, fun v => Version.parse_text, ?read⟩
  case given =>
    intro values s h
    have hformed := isWellFormed_of_check h
    exact ⟨hformed, keepsVersion_of_check h, check_given hformed⟩
  case loaded =>
    intro m root environment s h
    rw [load_eq] at h
    obtain ⟨values, hvalues, h⟩ := Ran.except_bind_eq_ok.mp h
    have hcheck := Ran.except_mapError_eq_ok.mp h
    have hformed := isWellFormed_of_check hcheck
    exact ⟨hformed, check_given hformed, values, hvalues, keepsVersion_of_check hcheck⟩
  case read =>
    intro text v h
    have hrange := Version.inRange_of_parse h
    exact ⟨hrange, Version.parse_text hrange⟩

/-- Signs, zeros in front, underscores, blanks and digits of another script are not kept: the
settings hold the plain text of the version, and that text is kept. -/
theorem checked_settings_are_stable_of_liberal_version :
    check [("min_version", .text " +01.-0_2.\u0663\n"), ("timeout", .bool true)] =
        .ok { standard with minVersion := "1.-2.3", timeout := some (.ofInt 1) } ∧
      check (given { standard with minVersion := "1.-2.3", timeout := some (.ofInt 1) }) =
        .ok { standard with minVersion := "1.-2.3", timeout := some (.ofInt 1) } ∧
      Version.parse " +01.-0_2.\u0663\n" = .ok ⟨1, -2, 3⟩ ∧
      Version.parse "1.-2.3" = .ok ⟨1, -2, 3⟩ := by
  have hcheck : check [("min_version", .text " +01.-0_2.\u0663\n"), ("timeout", .bool true)] =
      .ok { standard with minVersion := "1.-2.3", timeout := some (.ofInt 1) } := by
    decide +kernel
  have hparse : Version.parse " +01.-0_2.\u0663\n" = .ok ⟨1, -2, 3⟩ := by decide +kernel
  obtain ⟨hgiven, -, -, hread⟩ := checked_settings_are_stable
  exact ⟨hcheck, (hgiven _ _ hcheck).2.2, hparse, (hread _ _ hparse).2⟩

end LintBridge.Settings
