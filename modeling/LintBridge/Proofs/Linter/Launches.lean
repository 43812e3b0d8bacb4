import LintBridge.Linter.Lint
import LintBridge.Proofs.Linter.Probe
import LintBridge.Proofs.Linter.Readiness
import LintBridge.Proofs.Machine.Command
import LintBridge.Proofs.Machine.Path

/-!
The programs that a checker starts.

There are two of them, the probe of the version and the lint itself, and both are started with the
program that the executable stands for, with no input and with the timeout of the settings. A probe
has no working directory; a lint runs in the directory of its project. Which of them an operation
starts is said operation by operation.
-/

namespace LintBridge.Linter

variable {m : Machine} {s : Settings} {path : String} {target : Path} {buffer : Option String}

/-! ### The programs -/

/-- What is started with the program that the executable stands for: nothing if there is none. -/
def starts (m : Machine) (s : Settings) (how : String → Launch) : List Launch :=
  match m.resolve s.executable with
  | .ok (some program) => [how program]
  | _ => []

/-- How the probe of a program is started. -/
def probeLaunch (s : Settings) (program : String) : Launch :=
  ⟨[program, s.versionFlag], none, s.timeout, true⟩

/-- How the lint of a path is started with a program. -/
def lintLaunch (s : Settings) (target : Path) (cwd : Option Path) (program : String) : Launch :=
  ⟨[program, s.subcommand, s.reporterFlag, target.text], cwd.map Path.text, s.timeout, true⟩

theorem starts_of_resolved {program : String} (h : m.resolve s.executable = .ok (some program))
    (how : String → Launch) : starts m s how = [how program] := by
  rw [starts, h]

theorem starts_of_unresolved (h : ∀ program, m.resolve s.executable ≠ .ok (some program))
    (how : String → Launch) : starts m s how = [] := by
  unfold starts
  split
  · next program hprogram => exact absurd hprogram (h program)
  · rfl

theorem mem_starts_iff {how : String → Launch} {l : Launch} : l ∈ starts m s how ↔
    ∃ program, m.resolve s.executable = .ok (some program) ∧ l = how program := by
  by_cases h : ∃ program, m.resolve s.executable = .ok (some program)
  · obtain ⟨program, hprogram⟩ := h
    simp [starts_of_resolved hprogram, hprogram]
  · have hnone : ∀ program, m.resolve s.executable ≠ .ok (some program) :=
      fun program hprogram => h ⟨program, hprogram⟩
    simp [starts_of_unresolved hnone, hnone]

/-! ### The probe -/

theorem launches_installedVersion (m : Machine) (s : Settings) :
    (installedVersion m s).launches = starts m s (probeLaunch s) :=
  launches_probe m s.executable s.versionFlag none s.timeout

theorem published_installedVersion (m : Machine) (s : Settings) :
    (installedVersion m s).published = [] := by
  rw [installedVersion, probe, Ran.bind_eq,
    Ran.published_andThen _ fun ended => (quiet_probed _ ended).published]
  exact Command.published_run rfl

/-! ### Readiness and verification -/

theorem quiet_notReady (note : Note) : (notReady note).Quiet :=
  (Ran.quiet_note note).andThen fun _ => Ran.quiet_of _

theorem quiet_isReadyWith (m : Machine) (s : Settings) (path : String) (version : Option String) :
    (isReadyWith m s path version).Quiet := by
  cases version with
  | none => exact quiet_notReady _
  | some version =>
    refine (Ran.quiet_of _).andThen fun supported => ?_
    cases supported with
    | false => exact quiet_notReady _
    | true =>
      refine (Ran.quiet_of _).andThen fun project => ?_
      cases project with
      | none => exact quiet_notReady _
      | some project => exact Ran.quiet_of _

/-- Readiness starts the probe and nothing else. -/
theorem launches_isReady (m : Machine) (s : Settings) (path : String) :
    (isReady m s path).launches = starts m s (probeLaunch s) := by
  rw [isReady, executablePath]
  cases hprogram : m.resolve s.executable with
  | error e =>
    rw [starts, hprogram]
    rfl
  | ok program =>
    simp only [Ran.except_mapError_ok, Ran.bind_eq, Ran.of_ok_andThen]
    cases program with
    | none =>
      rw [starts, hprogram]
      rfl
    | some program =>
      rw [Ran.launches_andThen _ fun version => (quiet_isReadyWith m s path version).launches,
        launches_installedVersion]

theorem published_isReady (m : Machine) (s : Settings) (path : String) :
    (isReady m s path).published = [] := by
  refine Ran.published_andThen _ fun program => ?_
  cases program with
  | none => exact (quiet_notReady _).published
  | some program =>
    exact (Ran.published_andThen _ fun version => (quiet_isReadyWith m s path version).published).trans
      (published_installedVersion m s)

/-- A verification starts the probe, unless the search for a config fails, and nothing else. -/
theorem launches_verify (m : Machine) (s : Settings) (path : String) :
    (verify m s path).launches =
      match Project.find m s.markers path with
      | .ok _ => starts m s (probeLaunch s)
      | .error _ => [] := by
  simp only [verify, executablePath, findProject, Ran.bind_eq]
  cases hprogram : m.resolve s.executable with
  | error e =>
    have hnone : starts m s (probeLaunch s) = [] := by rw [starts, hprogram]
    cases Project.find m s.markers path <;> simp [hnone, Ran.andThen]
  | ok program =>
    cases Project.find m s.markers path with
    | error e => rfl
    | ok project =>
      have hquiet (version : Option String) : ((Ran.of (versionFinding s version)).andThen fun f =>
          pure (⟨s.checkerName, [executableFinding s program, configFinding project, f]⟩ :
            Verification)).Quiet :=
        (Ran.quiet_of _).andThen fun _ => Ran.quiet_of _
      simp only [Ran.except_mapError_ok, Ran.of_ok_andThen]
      cases program with
      | none =>
        rw [starts, hprogram]
        exact (hquiet none).launches
      | some program =>
        rw [← launches_installedVersion]
        exact Ran.launches_andThen _ fun version => (hquiet version).launches

/-! ### The lint -/

theorem quiet_forLinter (m : Machine) (names : MarkerNames) (path : String) :
    (Project.forLinter m names path).Quiet := by
  refine (Ran.quiet_of _).andThen fun project => ?_
  cases project with
  | none => exact (Ran.quiet_note _).andThen fun _ => Ran.quiet_of _
  | some project => exact Ran.quiet_of _

theorem quiet_workingDirectory (m : Machine) (s : Settings) (path : String) :
    (workingDirectory m s path).Quiet :=
  ((quiet_forLinter m s.markers path).mapError _).andThen fun _ => Ran.quiet_of _

theorem quiet_told (s : Settings) (target : Path) (buffer : Option String) (completed : Completed) :
    (told s target buffer completed).Quiet := by
  unfold told
  split
  · exact Ran.quiet_of _
  · exact (Ran.quiet_note _).andThen fun _ => Ran.quiet_of _

/-- The linter works in the directory of the project that is looked for. -/
theorem workingDirectory_eq_ok_iff {cwd : Option Path} :
    (workingDirectory m s path).result = .ok cwd ↔
      ∃ project, (Project.forLinter m s.markers path).result = .ok project ∧
        project.map (·.directory) = cwd := by
  rw [workingDirectory, Ran.bind_eq, Ran.result_andThen_eq_ok]
  cases h : (Project.forLinter m s.markers path).result <;>
    simp [projectForLinter, Ran.mapError, h]

theorem workingDirectory_eq_error_iff {f : Failure} :
    (workingDirectory m s path).result = .error f ↔
      ∃ e, (Project.forLinter m s.markers path).result = .error e ∧ .access e = f := by
  rw [workingDirectory, Ran.bind_eq, Ran.result_andThen]
  cases h : (Project.forLinter m s.markers path).result <;>
    simp [projectForLinter, Ran.mapError, h, Except.bind]

/-- A lint starts the linter in its working directory, if both are found, and nothing else. -/
theorem launches_lintAnchored {cwd : Option Path}
    (h : (workingDirectory m s target.text).result = .ok cwd) :
    (lintAnchored m s target buffer).launches = starts m s (lintLaunch s target cwd) := by
  have hquiet := quiet_workingDirectory m s target.text
  rw [lintAnchored, Ran.bind_eq, Ran.andThen_ok h]
  show _ ++ (Ran.andThen _ _).launches = _
  rw [hquiet.launches, List.nil_append,
    Ran.launches_andThen _ fun completed => (quiet_told s target buffer completed).launches]
  exact Command.launches_run rfl

theorem lintAnchored_of_error {e : Failure}
    (h : (workingDirectory m s target.text).result = .error e) :
    (lintAnchored m s target buffer).result = .error e ∧
      (lintAnchored m s target buffer).launches = [] := by
  have hquiet := quiet_workingDirectory m s target.text
  rw [lintAnchored, Ran.bind_eq, Ran.andThen_error h]
  exact ⟨rfl, hquiet.launches⟩

theorem published_lintAnchored (m : Machine) (s : Settings) (target : Path)
    (buffer : Option String) : (lintAnchored m s target buffer).published = [] := by
  refine (Ran.published_andThen _ fun cwd => ?_).trans
    (quiet_workingDirectory m s target.text).published
  refine (Ran.published_andThen _ fun completed => ?_).trans (Command.published_run rfl)
  exact (quiet_told s target buffer completed).published

/-- Without its program the linter is unavailable. -/
theorem lintAnchored_of_unresolved {cwd : Option Path}
    (hcwd : (workingDirectory m s target.text).result = .ok cwd)
    (h : ∀ program, m.resolve s.executable ≠ .ok (some program)) :
    ∃ reason, (lintAnchored m s target buffer).result = .error (.unavailable s.executable reason) := by
  obtain ⟨e, hrun, he⟩ := Command.run_of_unresolved
    (c := ⟨buildCommand s target.text, cwd, s.timeout, true⟩) rfl h
  have hresult : (lintAnchored m s target buffer).result = .error (commandFailure s e) := by
    rw [lintAnchored, Ran.bind_eq, Ran.andThen_ok hcwd]
    show (Ran.andThen (Ran.mapError _ _) _).result = _
    rw [hrun]
    rfl
  rcases he with rfl | ⟨path, rfl⟩
  · exact ⟨_, hresult⟩
  · exact ⟨_, hresult⟩

theorem lint_of_anchored (h : m.anchored path = .ok target) :
    lint m s path buffer = lintAnchored m s target buffer := by
  rw [lint, anchor, h]
  rfl

theorem lint_of_error {e : AccessError} (h : m.anchored path = .error e) :
    lint m s path buffer = .of (.error (.access e)) := by
  rw [lint, anchor, h]
  rfl

theorem published_lint (m : Machine) (s : Settings) (path : String) (buffer : Option String) :
    (lint m s path buffer).published = [] := by
  cases htarget : m.anchored path with
  | error e => rw [lint_of_error htarget, Ran.published_of]
  | ok target => rw [lint_of_anchored htarget, published_lintAnchored]

/-- A lint starts the linter in the directory of its project, unless the path cannot be anchored or
the search for a project fails, and nothing else. -/
theorem launches_lint (m : Machine) (s : Settings) (path : String) (buffer : Option String) :
    (lint m s path buffer).launches =
      match m.anchored path with
      | .error _ => []
      | .ok target =>
          match (Project.forLinter m s.markers target.text).result with
          | .error _ => []
          | .ok project => starts m s (lintLaunch s target (project.map (·.directory))) := by
  cases htarget : m.anchored path with
  | error e => rw [lint_of_error htarget, Ran.launches_of]
  | ok target =>
    rw [lint_of_anchored htarget]
    dsimp only
    cases hproject : (Project.forLinter m s.markers target.text).result with
    | error e =>
      exact (lintAnchored_of_error (workingDirectory_eq_error_iff.mpr ⟨e, hproject, rfl⟩)).2
    | ok project =>
      exact launches_lintAnchored (workingDirectory_eq_ok_iff.mpr ⟨project, hproject, rfl⟩)

/-- Without its program a lint tells that the linter is unavailable, unless it has failed before. -/
theorem lint_of_unresolved (h : ∀ program, m.resolve s.executable ≠ .ok (some program)) :
    (∃ reason, (lint m s path buffer).result = .error (.unavailable s.executable reason)) ∨
      ∃ e, (lint m s path buffer).result = .error (.access e) ∧
        (m.anchored path = .error e ∨ ∃ target, m.anchored path = .ok target ∧
          (Project.forLinter m s.markers target.text).result = .error e) := by
  cases htarget : m.anchored path with
  | error e => exact .inr ⟨e, by rw [lint_of_error htarget]; rfl, .inl rfl⟩
  | ok target =>
    rw [lint_of_anchored htarget]
    cases hcwd : (workingDirectory m s target.text).result with
    | ok cwd => exact .inl (lintAnchored_of_unresolved hcwd h)
    | error f =>
      obtain ⟨e, hproject, rfl⟩ := workingDirectory_eq_error_iff.mp hcwd
      exact .inr ⟨e, (lintAnchored_of_error hcwd).1, .inr ⟨target, rfl, hproject⟩⟩

/-! ### The check -/

/-- What a check of an anchored path does. -/
theorem check_of_anchored {sink : Sink} (h : m.anchored path = .ok target) :
    check m s path sink buffer =
      (isReady m s target.text).andThen fun ready =>
        if ready then (lint m s target.text buffer).andThen fun problems =>
          (handOver sink ⟨target.text, problems⟩).andThen fun _ => .of (.ok true)
        else .of (.ok false) := by
  simp only [check, anchor, h, Ran.except_mapError_ok, Ran.bind_eq, Ran.of_ok_andThen]
  rfl

theorem check_of_error {sink : Sink} {e : AccessError} (h : m.anchored path = .error e) :
    check m s path sink buffer = .of (.error (.access e)) := by
  rw [check, anchor, h]
  rfl

theorem launches_handOver (sink : Sink) (p : Publication) : (handOver sink p).launches = [] :=
  Ran.launches_andThen _ fun _ => rfl

/-- Of a check, readiness and the lint start programs, the lint only if the path is ready. -/
theorem launches_check {sink : Sink} (h : m.anchored path = .ok target) :
    (check m s path sink buffer).launches = (isReady m s target.text).launches ++
      match (isReady m s target.text).result with
      | .ok true => (lint m s target.text buffer).launches
      | _ => [] := by
  rw [check_of_anchored h]
  cases hready : (isReady m s target.text).result with
  | error e => simp [Ran.andThen_error hready]
  | ok ready =>
    rw [Ran.andThen_ok hready]
    cases ready with
    | false => rfl
    | true =>
      show _ ++ (Ran.andThen _ _).launches = _
      rw [Ran.launches_andThen _ fun problems =>
        (Ran.launches_andThen _ fun _ => rfl).trans (launches_handOver sink _)]

/-! ### All operations -/

/-- However a program is started, it has no input and the timeout of the settings. -/
def IsGuarded (s : Settings) (l : Launch) : Prop :=
  l.discardInput = true ∧ l.timeout = s.timeout

/-- What a checker starts is the probe or a lint, with the program that its executable stands for. -/
inductive IsStart (m : Machine) (s : Settings) : Launch → Prop
  | probe {program : String} : m.resolve s.executable = .ok (some program) →
      IsStart m s (probeLaunch s program)
  | lint {program : String} {target : Path} {cwd : Option Path} :
      m.resolve s.executable = .ok (some program) → IsStart m s (lintLaunch s target cwd program)

theorem IsStart.isGuarded {l : Launch} (h : IsStart m s l) : IsGuarded s l := by
  cases h with
  | probe _ => exact ⟨rfl, rfl⟩
  | lint _ => exact ⟨rfl, rfl⟩

theorem isStart_probe : ∀ l ∈ starts m s (probeLaunch s), IsStart m s l := by
  intro l hl
  obtain ⟨program, hprogram, rfl⟩ := mem_starts_iff.mp hl
  exact .probe hprogram

theorem isStart_isReady : ∀ l ∈ (isReady m s path).launches, IsStart m s l := by
  rw [launches_isReady]
  exact isStart_probe

theorem isStart_verify : ∀ l ∈ (verify m s path).launches, IsStart m s l := by
  rw [launches_verify]
  split
  · exact isStart_probe
  · simp

theorem isStart_lint : ∀ l ∈ (lint m s path buffer).launches, IsStart m s l := by
  rw [launches_lint]
  split
  · simp
  · split
    · simp
    · intro l hl
      obtain ⟨program, hprogram, rfl⟩ := mem_starts_iff.mp hl
      exact .lint hprogram

theorem isStart_check {sink : Sink} :
    ∀ l ∈ (check m s path sink buffer).launches, IsStart m s l := by
  cases htarget : m.anchored path with
  | error e => simp [check_of_error htarget]
  | ok target =>
    rw [launches_check htarget]
    refine List.forall_mem_append.mpr ⟨isStart_isReady, ?_⟩
    split
    · exact isStart_lint
    · simp

/-- What each operation starts. Readiness starts the probe; so does a verification, unless the search
for a config fails; a lint starts the linter in the directory of its project, unless the path cannot
be anchored or the search for a project fails. A check starts what readiness starts and then, only if
the path is ready, what the lint starts. Where there is no program, nothing is started and the linter
is unavailable. -/
theorem launches_by_operation (m : Machine) (s : Settings) (path : String) (sink : Sink)
    (buffer : Option String) :
    (isReady m s path).launches = starts m s (probeLaunch s) ∧
    ((verify m s path).launches =
      match Project.find m s.markers path with
      | .ok _ => starts m s (probeLaunch s)
      | .error _ => []) ∧
    ((lint m s path buffer).launches =
      match m.anchored path with
      | .error _ => []
      | .ok target =>
          match (Project.forLinter m s.markers target.text).result with
          | .error _ => []
          | .ok project => starts m s (lintLaunch s target (project.map (·.directory)))) ∧
    (∀ target, m.anchored path = .ok target → target.text.toList.head? = some '/') ∧
    ((∀ program, m.resolve s.executable ≠ .ok (some program)) →
      (∀ how, starts m s how = []) ∧
        ((∃ reason, (lint m s path buffer).result = .error (.unavailable s.executable reason)) ∨
          ∃ e, (lint m s path buffer).result = .error (.access e) ∧
            (m.anchored path = .error e ∨ ∃ target, m.anchored path = .ok target ∧
              (Project.forLinter m s.markers target.text).result = .error e))) ∧
    (match m.anchored path with
      | .error _ => (check m s path sink buffer).launches = []
      | .ok target => (check m s path sink buffer).launches =
          (isReady m s target.text).launches ++
            match (isReady m s target.text).result with
            | .ok true => (lint m s target.text buffer).launches
            | _ => []) ∧
    ∀ launches ∈ [(isReady m s path).launches, (verify m s path).launches,
        (lint m s path buffer).launches, (check m s path sink buffer).launches],
      ∀ l ∈ launches, l.discardInput = true ∧ l.timeout = s.timeout := by
  refine ⟨launches_isReady m s path, launches_verify m s path, launches_lint m s path buffer,
    ?anchored, fun h => ⟨starts_of_unresolved h, lint_of_unresolved h⟩, ?check, ?guarded⟩
  case anchored =>
    intro target htarget
    exact Path.head?_text (Machine.isAbsolute_of_anchored htarget)
  case check =>
    split
    · next e htarget => rw [check_of_error htarget, Ran.launches_of]
    · next target htarget => exact launches_check htarget
  case guarded =>
    intro launches hmem l hl
    simp only [List.mem_cons, List.not_mem_nil, or_false] at hmem
    apply IsStart.isGuarded (m := m)
    rcases hmem with rfl | rfl | rfl | rfl
    · exact isStart_isReady l hl
    · exact isStart_verify l hl
    · exact isStart_lint l hl
    · exact isStart_check l hl

example : (check sample .standard "app.js" .acceptAll none).launches =
    [⟨["/opt/biome", "--version"], none, none, true⟩,
      ⟨["/opt/biome", "lint", "--json", "/work/app.js"], some "/work", none, true⟩] := by
  decide +kernel

/-- The sample without the linter. -/
def bareSample : Machine :=
  { sample with executable := [] }

/-- On the sample without the linter, which is then unavailable. -/
theorem launches_by_operation_on_bareSample :
    (∃ reason, (lint bareSample .standard "app.js" none).result =
      .error (.unavailable "biome" reason)) ∨
      ∃ e, (lint bareSample .standard "app.js" none).result = .error (.access e) ∧
        (bareSample.anchored "app.js" = .error e ∨
          ∃ target, bareSample.anchored "app.js" = .ok target ∧
            (Project.forLinter bareSample .standard target.text).result = .error e) := by
  have hresolve : bareSample.resolve "biome" = .ok none := by decide +kernel
  have hnone : ∀ program, bareSample.resolve "biome" ≠ .ok (some program) := by
    intro program hprogram
    cases hresolve.symm.trans hprogram
  exact ((launches_by_operation bareSample .standard "app.js" .acceptAll none).2.2.2.2.1 hnone).2

end LintBridge.Linter
