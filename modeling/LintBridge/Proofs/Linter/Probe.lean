import LintBridge.Proofs.Linter.Readiness
import LintBridge.Proofs.Machine.Command
import LintBridge.Proofs.Machine.Scripts

/-!
The probe of a version.

A probe looks for a program, starts it, and makes something of its end. What can go wrong on the way
goes wrong in three places: the program is not found, it does not start, or it starts and comes to
no good end, and then it may well have printed a version. All of these come to the same, that there
is no version (`probe_absorbs_failures`); a version is only taken from a program that ended by
itself with status zero.
-/

namespace LintBridge.Linter

variable {m : Machine} {executable flag program : String} {cwd : Option Path}
  {timeout : Option Decimal.Binary64} {script : Script}

/-! ### The end of a probe -/

/-- What is made of a probe, by how its command came to its end. -/
theorem result_probed (executable : String) (ended : Except CommandError Completed) :
    (probed executable ended).result =
      match ended with
      | .error e => if isProbeFailure e then .ok none else .error (.command e)
      | .ok completed =>
          .ok (if completed.status = 0 then Version.reported? completed.out else none) := by
  cases ended with
  | error e =>
    simp only [probed]
    split <;> rfl
  | ok completed =>
    simp only [probed]
    split <;> rfl

/-- Once its command has come to its end, a probe starts nothing more. -/
theorem quiet_probed (executable : String) (ended : Except CommandError Completed) :
    (probed executable ended).Quiet := by
  unfold probed
  split
  · split
    · exact (Ran.quiet_note _).andThen fun _ => Ran.quiet_of _
    · exact Ran.quiet_of _
  · split
    · exact Ran.quiet_of _
    · exact (Ran.quiet_note _).andThen fun _ => Ran.quiet_of _

/-- The version that a program tells of by its script, which must end by itself and well. -/
def versionTold : Script → Option String
  | .finishes status out _ =>
      if status = 0 then Version.reported? (Command.outputText out) else none
  | .stopped _ _ => none
  | .fails _ => none

theorem versionTold_eq_some_iff {version : String} : versionTold script = some version ↔
    ∃ out err, script = .finishes 0 out err ∧
      Version.reported? (Command.outputText out) = some version := by
  cases script with
  | finishes status out err =>
    by_cases h : status = 0
    · simp [versionTold, h]
    · simp [versionTold, h]
  | stopped out err => simp [versionTold]
  | fails failure => simp [versionTold]

/-- Whatever the script of a program, a probe makes a version or none of it, unless the start fails
in no ordinary way. A stopped program counts as one that ended badly, since it has another status
than zero. -/
theorem result_probed_outcome (executable : String) (arguments : List String)
    (timeout : Option Decimal.Binary64)
    (h : ∀ label message, script ≠ .fails (.other label message)) :
    (probed executable (Command.outcome arguments timeout script)).result =
      .ok (versionTold script) := by
  rw [result_probed]
  cases script with
  | finishes status out err => rfl
  | stopped out err => rfl
  | fails failure =>
    cases failure with
    | other label message => exact absurd rfl (h label message)
    | system label message => rfl
    | refusedValue label message => rfl
    | undecodable error => rfl
    | earlierCommand program status stderr => rfl

/-! ### A whole probe -/

theorem result_probe_of_resolved (h : m.resolve executable = .ok (some program)) :
    (probe m executable flag cwd timeout).result =
      (probed executable
        (Command.outcome [program, flag] timeout (m.script [program, flag]))).result := by
  rw [probe, Command.run_of_resolved rfl h]
  rfl

/-- A probe of a program that is not found tells no version. -/
theorem result_probe_of_unresolved (h : ∀ program, m.resolve executable ≠ .ok (some program)) :
    (probe m executable flag cwd timeout).result = .ok none := by
  obtain ⟨e, hrun, he⟩ :=
    Command.run_of_unresolved (c := ⟨[executable, flag], cwd, timeout, true⟩) rfl h
  have hprobe : (probe m executable flag cwd timeout).result =
      (probed executable (.error e)).result := by
    rw [probe, hrun]
    rfl
  rw [hprobe, result_probed]
  rcases he with rfl | ⟨path, rfl⟩
  · rfl
  · rfl

/-- A probe starts its program if that is found, with the flag and with no input. -/
theorem launches_probe (m : Machine) (executable flag : String) (cwd : Option Path)
    (timeout : Option Decimal.Binary64) : (probe m executable flag cwd timeout).launches =
      match m.resolve executable with
      | .ok (some program) => [⟨[program, flag], cwd.map Path.text, timeout, true⟩]
      | _ => [] := by
  rw [probe, Ran.bind_eq, Ran.launches_andThen _ fun ended => (quiet_probed _ ended).launches]
  exact Command.launches_run rfl

/-- If the program of a probe starts, or fails to do so in an ordinary way, the probe does not fail.
It tells a version exactly if the program is found, was started and ended by itself with status
zero, and the version is the one that is reported in its output; in all other cases it tells that
there is none. -/
theorem probe_absorbs_failures (m : Machine) (executable flag : String) (cwd : Option Path)
    (timeout : Option Decimal.Binary64)
    (hstart : ∀ l ∈ (probe m executable flag cwd timeout).launches,
      ∀ label message, m.script l.arguments ≠ .fails (.other label message)) :
    ∃ found, (probe m executable flag cwd timeout).result = .ok found ∧
      ∀ version, found = some version ↔ ∃ program out err,
        m.resolve executable = .ok (some program) ∧
        (probe m executable flag cwd timeout).launches =
          [⟨[program, flag], cwd.map Path.text, timeout, true⟩] ∧
        m.script [program, flag] = .finishes 0 out err ∧
        Version.reported? (Command.outputText out) = some version := by
  have hlaunches := launches_probe m executable flag cwd timeout
  by_cases hfound : ∃ program, m.resolve executable = .ok (some program)
  · obtain ⟨program, hprogram⟩ := hfound
    simp only [hprogram] at hlaunches
    have hordinary : ∀ label message,
        m.script [program, flag] ≠ .fails (.other label message) :=
      hstart ⟨[program, flag], cwd.map Path.text, timeout, true⟩ (by simp [hlaunches])
    refine ⟨versionTold (m.script [program, flag]), ?_, ?_⟩
    · rw [result_probe_of_resolved hprogram, result_probed_outcome _ _ _ hordinary]
    · intro version
      rw [versionTold_eq_some_iff]
      constructor
      · rintro ⟨out, err, hscript, hversion⟩
        exact ⟨program, out, err, hprogram, hlaunches, hscript, hversion⟩
      · rintro ⟨other, out, err, hother, -, hscript, hversion⟩
        rw [hprogram] at hother
        cases hother
        exact ⟨out, err, hscript, hversion⟩
  · have hnone : ∀ program, m.resolve executable ≠ .ok (some program) :=
      fun program hprogram => hfound ⟨program, hprogram⟩
    refine ⟨none, result_probe_of_unresolved hnone, ?_⟩
    intro version
    constructor
    · intro h
      cases h
    · rintro ⟨program, out, err, hprogram, -⟩
      exact absurd hprogram (hnone program)

/-- The sample with a linter that is stopped after it has printed its version. -/
def stoppedSample : Machine :=
  sample.setScript "--version" (.stopped (some (Text.Utf8.encode "Version: 1.9.4\n".toList)) none)

/-- The probe tells the version of the sample's linter. It tells none if that linter is stopped with
its version already printed, and none if the directory of the linter may not be searched. -/
theorem probe_absorbs_failures_on_samples :
    (probe sample "biome" "--version" none none).result = .ok (some "1.9.4") ∧
      (probe stoppedSample "biome" "--version" none none).result = .ok none ∧
      (probe { sample with sealed := [["opt"]] } "/opt/biome" "--version" none none).result =
        .ok none := by
  refine ⟨?told, ?stopped, ?sealed⟩
  case told =>
    have hlaunches : (probe sample "biome" "--version" none none).launches =
        [⟨["/opt/biome", "--version"], none, none, true⟩] := by decide +kernel
    have hscript : sample.script ["/opt/biome", "--version"] =
        .finishes 0 (Text.Utf8.encode "Version: 1.9.4\n".toList) [] := rfl
    obtain ⟨found, hresult, hfound⟩ :=
      probe_absorbs_failures sample "biome" "--version" none none
        (by rw [hlaunches]; simp [hscript])
    have hversion : found = some "1.9.4" := (hfound "1.9.4").mpr
      ⟨"/opt/biome", _, _, by decide +kernel, hlaunches, rfl, by decide +kernel⟩
    rw [hresult, hversion]
  case stopped =>
    have hlaunches : (probe stoppedSample "biome" "--version" none none).launches =
        [⟨["/opt/biome", "--version"], none, none, true⟩] := by decide +kernel
    have hscript : stoppedSample.script ["/opt/biome", "--version"] =
        .stopped (some (Text.Utf8.encode "Version: 1.9.4\n".toList)) none := rfl
    obtain ⟨found, hresult, hfound⟩ :=
      probe_absorbs_failures stoppedSample "biome" "--version" none none
        (by rw [hlaunches]; simp [hscript])
    cases found with
    | none => exact hresult
    | some version =>
      obtain ⟨program, out, err, -, hstarted, hends, -⟩ := (hfound version).mp rfl
      rw [hlaunches] at hstarted
      cases hstarted
      rw [hscript] at hends
      cases hends
  case sealed =>
    have hlaunches : (probe { sample with sealed := [["opt"]] } "/opt/biome" "--version" none
        none).launches = [] := by decide +kernel
    obtain ⟨found, hresult, hfound⟩ :=
      probe_absorbs_failures { sample with sealed := [["opt"]] } "/opt/biome" "--version" none none
        (by rw [hlaunches]; simp)
    cases found with
    | none => exact hresult
    | some version =>
      obtain ⟨program, out, err, -, hstarted, -⟩ := (hfound version).mp rfl
      rw [hlaunches] at hstarted
      cases hstarted

end LintBridge.Linter
