import LintBridge.Proofs.Linter.Publication
import LintBridge.Proofs.Machine.Scripts

/-!
What the exit status of the linter decides.

A lint that has started the linter is decided by what the linter's script does
(`lint_starts_or_fails`): if the linter comes to its end, its output is translated, whatever the
status, but for one status. That is the status which also stands for a timeout (`verdict`). So of
two linters that end by themselves with other statuses and print the same, a lint tells the same;
and a lint tells of a timeout if the linter was stopped, and also if it ended with that status by
itself.
-/

namespace LintBridge.Linter

variable {m : Machine} {s : Settings} {path : String} {target : Path} {buffer : Option String}

/-- What a lint tells that has started a linter with a script. -/
def verdict (s : Settings) (target : Path) (buffer : Option String) :
    Script → Except Failure (List Problem)
  | .finishes status out _ =>
      if status = Command.timeoutStatus then .error (.timedOut s.executable s.timeout)
      else (Report.translate ⟨s.checkerName, some target.text, buffer⟩
        (Command.outputText out).toList).mapError .output
  | .stopped _ _ => .error (.timedOut s.executable s.timeout)
  | .fails failure => .error (commandFailure s (.notStarted failure))

/-- Whether a script ends in the way that stands for a timeout. -/
def endsLikeTimeout : Script → Bool
  | .finishes status _ _ => status = Command.timeoutStatus
  | .stopped _ _ => true
  | .fails _ => false

theorem endsLikeTimeout_iff {script : Script} : endsLikeTimeout script = true ↔
    (∃ out err, script = .stopped out err) ∨
      ∃ out err, script = .finishes Command.timeoutStatus out err := by
  cases script <;> simp [endsLikeTimeout]

/-! ### What a lint tells -/

theorem result_told (completed : Completed) : (told s target buffer completed).result =
    if completed.status = Command.timeoutStatus then .error (.timedOut s.executable s.timeout)
    else (Report.translate ⟨s.checkerName, some target.text, buffer⟩
      completed.out.toList).mapError .output := by
  unfold told
  split <;> rfl

/-- A lint looks for its directory and for its program, and tells what the script makes of it. -/
theorem result_lintAnchored (m : Machine) (s : Settings) (target : Path) (buffer : Option String) :
    (lintAnchored m s target buffer).result =
      (workingDirectory m s target.text).result.bind fun _ =>
        ((Command.resolved m (buildCommand s target.text)).mapError (commandFailure s)).bind
          fun arguments => verdict s target buffer (m.script arguments) := by
  rw [lintAnchored, Ran.bind_eq, Ran.result_andThen]
  congr
  funext cwd
  rw [Ran.bind_eq, Ran.result_andThen]
  cases hresolved : Command.resolved m (buildCommand s target.text) with
  | error e =>
    simp only [Command.run, hresolved]
    rfl
  | ok arguments =>
    simp only [Command.run, hresolved]
    show (Except.mapError _ (Command.outcome arguments s.timeout (m.script arguments))).bind _ =
      verdict s target buffer (m.script arguments)
    cases m.script arguments with
    | finishes status out err => exact result_told _
    | stopped out err => exact result_told _
    | fails failure => rfl

theorem resolved_buildCommand {program : String} (path : String)
    (h : m.resolve s.executable = .ok (some program)) :
    Command.resolved m (buildCommand s path) =
      .ok [program, s.subcommand, s.reporterFlag, path] := by
  simp [Command.resolved, buildCommand, h]

/-- A lint has started the linter, and tells what the script makes of it, or it has started nothing,
and tells that the linter is unavailable or that a lookup has failed. -/
theorem lint_starts_or_fails (m : Machine) (s : Settings) (path : String) (buffer : Option String) :
    (∃ target cwd program, m.anchored path = .ok target ∧
        (lint m s path buffer).launches = [lintLaunch s target cwd program] ∧
        (lint m s path buffer).result =
          verdict s target buffer (m.script (lintLaunch s target cwd program).arguments)) ∨
      (lint m s path buffer).launches = [] ∧
        ((∃ reason, (lint m s path buffer).result = .error (.unavailable s.executable reason)) ∨
          ∃ e, (lint m s path buffer).result = .error (.access e)) := by
  cases htarget : m.anchored path with
  | error e => exact .inr (by rw [lint_of_error htarget]; exact ⟨rfl, .inr ⟨e, rfl⟩⟩)
  | ok target =>
    rw [lint_of_anchored htarget]
    cases hcwd : (workingDirectory m s target.text).result with
    | error f =>
      obtain ⟨e, -, rfl⟩ := workingDirectory_eq_error_iff.mp hcwd
      have hfails : (lintAnchored m s target buffer).result = .error (.access e) ∧
          (lintAnchored m s target buffer).launches = [] := lintAnchored_of_error hcwd
      exact .inr ⟨hfails.2, .inr ⟨e, hfails.1⟩⟩
    | ok cwd =>
      by_cases hfound : ∃ program, m.resolve s.executable = .ok (some program)
      · obtain ⟨program, hprogram⟩ := hfound
        refine .inl ⟨target, cwd, program, rfl, ?launches, ?result⟩
        case launches => rw [launches_lintAnchored hcwd, starts_of_resolved hprogram]
        case result =>
          rw [result_lintAnchored, hcwd, resolved_buildCommand _ hprogram]
          rfl
      · have hnone : ∀ program, m.resolve s.executable ≠ .ok (some program) :=
          fun program hprogram => hfound ⟨program, hprogram⟩
        refine .inr ⟨?_, .inl (lintAnchored_of_unresolved hcwd hnone)⟩
        rw [launches_lintAnchored hcwd, starts_of_unresolved hnone]

theorem verdict_eq_ok_iff {script : Script} {problems : List Problem} :
    verdict s target buffer script = .ok problems ↔
      ∃ status out err, script = .finishes status out err ∧ status ≠ Command.timeoutStatus ∧
        Report.translate ⟨s.checkerName, some target.text, buffer⟩
          (Command.outputText out).toList = .ok problems := by
  cases script with
  | finishes status out err =>
    by_cases h : status = Command.timeoutStatus
    · simp [verdict, h]
    · simp [verdict, h, Ran.except_mapError_eq_ok]
  | stopped out err => simp [verdict]
  | fails failure => simp [verdict]

/-- A lint tells problems if it has started a linter that came to its end and printed a report of
them. -/
theorem lint_eq_ok_iff (h : m.anchored path = .ok target) {problems : List Problem} :
    (lint m s path buffer).result = .ok problems ↔
      ∃ l status out err, (lint m s path buffer).launches = [l] ∧
        m.script l.arguments = .finishes status out err ∧ status ≠ Command.timeoutStatus ∧
        Report.translate ⟨s.checkerName, some target.text, buffer⟩
          (Command.outputText out).toList = .ok problems := by
  obtain ⟨target', cwd, program, htarget, hlaunches, hresult⟩ | ⟨hlaunches, hresult⟩ :=
    lint_starts_or_fails m s path buffer
  · rw [h] at htarget
    cases htarget
    rw [hresult, hlaunches, verdict_eq_ok_iff]
    simp only [List.cons.injEq, and_true]
    constructor
    · rintro ⟨status, out, err, hends⟩
      exact ⟨_, status, out, err, rfl, hends⟩
    · rintro ⟨l, status, out, err, rfl, hends⟩
      exact ⟨status, out, err, hends⟩
  · obtain ⟨reason, hresult⟩ | ⟨e, hresult⟩ := hresult <;> simp [hresult, hlaunches]

/-! ### The status -/

theorem verdict_of_status {c c' : Int} {out err err' : List UInt8}
    (h : c ≠ Command.timeoutStatus) (h' : c' ≠ Command.timeoutStatus) (arguments : List String) :
    verdict s target buffer (Script.startedWith arguments (.finishes c out err)) =
      verdict s target buffer (Script.startedWith arguments (.finishes c' out err')) := by
  unfold Script.startedWith
  split
  · rfl
  · rw [verdict, verdict, if_neg h, if_neg h']

theorem verdict_eq_timedOut_iff {script : Script} {executable : String}
    {limit : Option Decimal.Binary64} :
    verdict s target buffer script = .error (.timedOut executable limit) ↔
      executable = s.executable ∧ limit = s.timeout ∧ endsLikeTimeout script = true := by
  cases script with
  | finishes status out err =>
    by_cases h : status = Command.timeoutStatus
    · simp [verdict, endsLikeTimeout, h, eq_comm]
    · cases ht : Report.translate ⟨s.checkerName, some target.text, buffer⟩
        (Command.outputText out).toList <;> simp [verdict, endsLikeTimeout, h, ht]
  | stopped out err => simp [verdict, endsLikeTimeout, eq_comm]
  | fails failure => cases failure <;> simp [verdict, endsLikeTimeout, commandFailure]

/-- A lint on a machine whose linter has a script, by the machine without it. -/
theorem result_lint_setScript (m : Machine) (s : Settings) (path : String) (buffer : Option String)
    (script : Script) :
    (lint (m.setScript s.subcommand script) s path buffer).result =
      ((m.anchored path).mapError Failure.access).bind fun target =>
        (workingDirectory m s target.text).result.bind fun _ =>
          ((Command.resolved m (buildCommand s target.text)).mapError (commandFailure s)).bind
            fun arguments => verdict s target buffer (script.startedWith arguments) := by
  have hanchored := m.anchored_setScript s.subcommand script path
  cases htarget : m.anchored path with
  | error e =>
    rw [lint_of_error (hanchored.trans htarget)]
    rfl
  | ok target =>
    rw [lint_of_anchored (hanchored.trans htarget), result_lintAnchored, workingDirectory_setScript,
      Command.resolved_setScript]
    show Except.bind _ _ = Except.bind _ _
    congr
    funext cwd
    cases hprogram : m.resolve s.executable with
    | error e => simp [Command.resolved, buildCommand, hprogram, Except.bind]
    | ok found =>
      cases found with
      | none => simp [Command.resolved, buildCommand, hprogram, Except.bind]
      | some program =>
        rw [resolved_buildCommand _ hprogram]
        exact congrArg (verdict s target buffer) (m.script_setScript s.subcommand script rfl)

/-- A linter that ends by itself decides a lint by its output alone, as long as its status is not
the one that stands for a timeout: with another such status the lint tells the same, and what it
tells is the translation of the output. A lint tells of a timeout exactly if the linter was stopped
or ended with that status. -/
theorem status_decides_only_timeouts (m : Machine) (s : Settings) (path : String)
    (buffer : Option String) :
    (∀ status status' out err err', status ≠ Command.timeoutStatus →
      status' ≠ Command.timeoutStatus →
      (lint (m.setScript s.subcommand (.finishes status out err)) s path buffer).result =
        (lint (m.setScript s.subcommand (.finishes status' out err')) s path buffer).result) ∧
    (∀ l ∈ (lint m s path buffer).launches, ∀ status out err,
      m.script l.arguments = .finishes status out err → status ≠ Command.timeoutStatus →
      ∃ target, m.anchored path = .ok target ∧ (lint m s path buffer).result =
        (Report.translate ⟨s.checkerName, some target.text, buffer⟩
          (Command.outputText out).toList).mapError .output) ∧
    ∀ executable limit, (lint m s path buffer).result = .error (.timedOut executable limit) ↔
      executable = s.executable ∧ limit = s.timeout ∧ ∃ l ∈ (lint m s path buffer).launches,
        (∃ out err, m.script l.arguments = .stopped out err) ∨
          ∃ out err, m.script l.arguments = .finishes Command.timeoutStatus out err := by
  refine ⟨?other, ?output, ?timeout⟩
  case other =>
    intro status status' out err err' hstatus hstatus'
    rw [result_lint_setScript, result_lint_setScript]
    have hverdict (target : Path) (arguments : List String) :
        verdict s target buffer (Script.startedWith arguments (.finishes status out err)) =
          verdict s target buffer (Script.startedWith arguments (.finishes status' out err')) :=
      verdict_of_status hstatus hstatus' arguments
    simp only [hverdict]
  case output =>
    intro l hl status out err hscript hstatus
    obtain ⟨target, cwd, program, htarget, hlaunches, hresult⟩ | ⟨hlaunches, -⟩ :=
      lint_starts_or_fails m s path buffer
    · rw [hlaunches, List.mem_singleton] at hl
      subst hl
      rw [hscript, verdict, if_neg hstatus] at hresult
      exact ⟨target, htarget, hresult⟩
    · rw [hlaunches] at hl
      cases hl
  case timeout =>
    intro executable limit
    obtain ⟨target, cwd, program, -, hlaunches, hresult⟩ | ⟨hlaunches, hresult⟩ :=
      lint_starts_or_fails m s path buffer
    · rw [hresult, hlaunches, verdict_eq_timedOut_iff, endsLikeTimeout_iff]
      simp only [List.mem_singleton, exists_eq_left]
    · rw [hlaunches]
      obtain ⟨reason, hresult⟩ | ⟨e, hresult⟩ := hresult <;> simp [hresult]

/-- The sample with a linter that ends with a status and has nothing to tell. -/
def sampleEnding (status : Int) : Machine :=
  sample.setScript "lint"
    (.finishes status (Text.Utf8.encode "\x7b\"diagnostics\": []\x7d".toList) [])

/-- On the sample, the status of a linter that was killed makes no difference to a good end. -/
theorem status_decides_only_timeouts_on_sample :
    (lint (sampleEnding 0) .standard "app.js" none).result =
        (lint (sampleEnding (-9)) .standard "app.js" none).result ∧
      ∃ target, (sampleEnding (-9)).anchored "app.js" = .ok target ∧
        (lint (sampleEnding (-9)) .standard "app.js" none).result =
          (Report.translate ⟨"biome", some target.text, none⟩
            (Command.outputText (Text.Utf8.encode
              "\x7b\"diagnostics\": []\x7d".toList)).toList).mapError .output := by
  refine ⟨(status_decides_only_timeouts sample .standard "app.js" none).1 0 (-9) _ [] []
    (by decide) (by decide), ?_⟩
  exact (status_decides_only_timeouts (sampleEnding (-9)) .standard "app.js" none).2.1
    ⟨["/opt/biome", "lint", "--json", "/work/app.js"], some "/work", none, true⟩ (by decide +kernel)
    (-9) _ [] rfl (by decide)

/-- A linter that ends with the status that stands for a timeout is taken for one that was stopped,
though it has printed a whole report, and though there was no limit. -/
theorem ended_linter_is_told_as_stopped :
    (lint (sampleEnding 0) .standard "app.js" none).result = .ok [] ∧
      (lint (sampleEnding 124) .standard "app.js" none).result =
        .error (.timedOut "biome" none) := by
  decide +kernel

end LintBridge.Linter
