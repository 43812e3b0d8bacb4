import LintBridge.Proofs.Version
import LintBridge.Settings.Check

/-!
Settings that pass the check, and what the version gate makes of them.

Settings pass as a whole if each of them does (`check_eq_ok_iff`). What one of them is then known to
satisfy, its standard value satisfies as well (`of_setting`).

The check of a minimum version is not that of the gate: it takes every version, the gate takes
releases only. So there are settings with which no installed version is compared
(`isSupported_of_check`).
-/

namespace LintBridge.Settings

variable {values : List (String × Given)} {s : Settings}

/-! ### One setting -/

/-- What holds of the standard value and of every value that passes holds of the setting. -/
theorem of_setting {α : Type} {P : α → Prop} {name : String} {standard a : α}
    {check : Given → Checked Fault α} (h : setting values name standard check = .ok a)
    (hstandard : P standard) (hcheck : ∀ given b, check given = .ok b → P b) : P a := by
  unfold setting at h
  split at h
  · next given _ => exact hcheck given a (Checked.under_eq_ok.mp h)
  · rwa [← Except.ok.inj h]

theorem checkVersion_eq_ok_iff {given : Given} {text : String} :
    checkVersion given = .ok text ↔
      ∃ t v, checkText given = .ok t ∧ Version.parse t = .ok v ∧ v.text = text := by
  rw [checkVersion, Checked.andThen_eq_ok]
  refine exists_congr fun t => ?_
  cases Version.parse t with
  | ok v => simp
  | error e => simp [Checked.refuse]

/-! ### All settings -/

theorem check_eq_ok_iff :
    check values = .ok s ↔
      setting values "executable" standard.executable checkFilled = .ok s.executable ∧
      setting values "version_flag" standard.versionFlag checkText = .ok s.versionFlag ∧
      setting values "min_version" standard.minVersion checkVersion = .ok s.minVersion ∧
      setting values "subcommand" standard.subcommand checkFilled = .ok s.subcommand ∧
      setting values "reporter_flag" standard.reporterFlag checkText = .ok s.reporterFlag ∧
      checkMarkers values = .ok s.markers ∧
      setting values "timeout" standard.timeout checkTimeout = .ok s.timeout ∧
      setting values "checker_name" standard.checkerName checkFilled = .ok s.checkerName ∧
      checkNames values = .ok () := by
  rw [check, Checked.map_eq_ok]
  constructor
  · rintro ⟨⟨executable, versionFlag, minVersion, subcommand, reporterFlag, markers, timeout,
      checkerName, _⟩, h, rfl⟩
    simpa only [Checked.both_eq_ok] using h
  · intro h
    exact ⟨(s.executable, s.versionFlag, s.minVersion, s.subcommand, s.reporterFlag, s.markers,
      s.timeout, s.checkerName, ()), by simpa only [Checked.both_eq_ok] using h, rfl⟩

/-- The minimum version of settings that pass is a version in its written form. -/
theorem minVersion_of_check (h : check values = .ok s) :
    ∃ minimum : Version, minimum.InRange ∧ s.minVersion = minimum.text := by
  obtain ⟨-, -, hversion, -⟩ := check_eq_ok_iff.mp h
  have hstandard : Version.parse standard.minVersion = .ok ⟨1, 6, 0⟩ := by decide +kernel
  refine of_setting (P := fun text => ∃ minimum : Version, minimum.InRange ∧ text = minimum.text)
    hversion ⟨_, Version.inRange_of_parse hstandard, rfl⟩ fun given text hgiven => ?_
  obtain ⟨t, v, -, hparse, rfl⟩ := checkVersion_eq_ok_iff.mp hgiven
  exact ⟨v, Version.inRange_of_parse hparse, rfl⟩

/-! ### The gate with settings that pass -/

theorem parse_minVersion (h : check values = .ok s) :
    ∃ minimum, Version.parse s.minVersion = .ok minimum ∧ s.minVersion = minimum.text := by
  obtain ⟨minimum, hrange, htext⟩ := minVersion_of_check h
  exact ⟨minimum, by rw [htext, Version.parse_text hrange], htext⟩

/-- With settings that pass, the gate gives an answer for every installed version of digits if the
minimum is a release. A minimum with a negative number passes too, and with it the gate refuses to
answer, whatever is installed. -/
theorem isSupported_of_check (hs : check values = .ok s) {major minor patch : List Char}
    (hrun : ∀ run ∈ [major, minor, patch], Decimal.IsRun run)
    (hlen : ∀ run ∈ [major, minor, patch], run.length ≤ Decimal.maxDigits) :
    ∃ minimum, Version.parse s.minVersion = .ok minimum ∧
      (minimum.IsRelease →
        ∃ b, Version.isSupported (Version.dotted major minor patch) s.minVersion = .ok b) ∧
      (¬ minimum.IsRelease →
        Version.isSupported (Version.dotted major minor patch) s.minVersion =
          .error (.negative s.minVersion)) := by
  obtain ⟨minimum, hparse, htext⟩ := parse_minVersion hs
  refine ⟨minimum, hparse, ?_⟩
  rcases Version.isSupported_runs hrun hparse with
    ⟨run, hmem, hlong, -⟩ | ⟨-, ⟨hnot, herror⟩ | ⟨hrelease, hanswer⟩⟩
  · exact absurd (hlen run hmem) (Nat.not_le.mpr hlong)
  · exact ⟨fun h => absurd h hnot, fun _ => by rw [herror, htext]⟩
  · exact ⟨fun _ => hanswer, fun h => absurd hrelease h⟩

/-- The standard minimum is compared with version 1.9.4. -/
theorem isSupported_of_check_standard :
    check [] = .ok standard ∧
      ∃ b, Version.isSupported (Version.dotted ['1'] ['9'] ['4']) standard.minVersion = .ok b := by
  have hs : check [] = .ok standard := by decide +kernel
  have hrun (d : Char) (hd : Text.isDecimalDigit d = true) : Decimal.IsRun [d] :=
    ⟨List.cons_ne_nil d [], by simpa using hd⟩
  obtain ⟨minimum, hparse, hanswer, -⟩ := isSupported_of_check hs
    (by simpa using ⟨hrun '1' (by decide), hrun '9' (by decide), hrun '4' (by decide)⟩)
    (by decide)
  have hminimum : Version.parse standard.minVersion = .ok ⟨1, 6, 0⟩ := by decide +kernel
  rw [hminimum] at hparse
  obtain rfl := Except.ok.inj hparse
  exact ⟨hs, hanswer ⟨by decide, by decide, by decide⟩⟩

/-- Settings that ask for a version with a negative number. -/
def negativeMinimum : Settings :=
  { standard with minVersion := "-1.0.0" }

/-- The settings pass, and no answer comes from the gate for version 1.9.4. -/
theorem isSupported_negativeMinimum :
    check [("min_version", .text "-1.0.0")] = .ok negativeMinimum ∧
      Version.isSupported "1.9.4" negativeMinimum.minVersion = .error (.negative "-1.0.0") := by
  decide +kernel

end LintBridge.Settings
