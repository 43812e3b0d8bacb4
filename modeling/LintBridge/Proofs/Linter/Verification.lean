import LintBridge.Proofs.Linter.Probe
import LintBridge.Proofs.Linter.Readiness
import LintBridge.Proofs.Machine.Path
import LintBridge.Proofs.Project
import LintBridge.Proofs.Settings.Check
import LintBridge.Proofs.Version.Reported

/-!
When a verification is told.

A verification that is told has its three findings, whatever they say. It is not told if a question
on the way to them has no answer, and each of the four questions can be without one: a directory
that may not be searched keeps the executable or the config from being looked for, a probe can fail
in a way that has nothing to do with starting a program, and the gate can refuse the version. These
obstacles are listed in `Obstacle`, and there are no others (`verify_tells_three_findings`).
-/

namespace LintBridge.Linter

variable {m : Machine} {s : Settings} {path : String} {target : Path} {program : String}

/-! ### The probe -/

/-- A probe of a program that is found fails only if its start fails in no ordinary way. -/
theorem installedVersion_eq_error_iff (h : m.resolve s.executable = .ok (some program))
    {f : Failure} : (installedVersion m s).result = .error f ↔
      ∃ label message, m.script [program, s.versionFlag] = .fails (.other label message) ∧
        f = .command (.notStarted (.other label message)) := by
  rw [installedVersion, result_probe_of_resolved h, result_probed]
  cases m.script [program, s.versionFlag] with
  | finishes status out err => simp [Command.outcome]
  | stopped out err => simp [Command.outcome]
  | fails failure => cases failure <;> simp [Command.outcome, isProbeFailure, eq_comm]

/-- A version that is found is one of three runs of digits. -/
theorem runs_of_installedVersion (h : m.resolve s.executable = .ok (some program))
    {version : String} (hversion : (installedVersion m s).result = .ok (some version)) :
    ∃ major minor patch, (∀ run ∈ [major, minor, patch], Decimal.IsRun run) ∧
      version = Version.dotted major minor patch := by
  rw [installedVersion, result_probe_of_resolved h, result_probed] at hversion
  split at hversion
  · split at hversion <;> cases hversion
  · split at hversion
    · exact Version.runs_of_reported (Except.ok.inj hversion)
    · cases hversion

/-! ### What can be in the way -/

/-- The paths at which a config is looked for, if it is known whether the target is a directory. -/
def configCandidates (s : Settings) (target : Path) (isDirectory : Bool) : List Path :=
  Project.candidates
    [⟨s.markers.secondary, .secondaryConfig⟩, ⟨s.markers.primary, .primaryConfig⟩]
    (if isDirectory then target else target.parent).ancestors

/-- What keeps a verification from being told, with the failure that it brings. -/
inductive Obstacle (m : Machine) (s : Settings) (target : Path) : Failure → Prop
  /-- An absolute path names the executable, and it cannot be looked up. -/
  | executable : (Path.parse s.executable).isAbsolute = true → m.Barred (.parse s.executable) →
      Obstacle m s target (.access (.denied (Path.parse s.executable).text))
  /-- The target cannot be looked up. -/
  | target : m.Barred target → Obstacle m s target (.access (.denied target.text))
  /-- A place for a config cannot be looked up, and there is no config before it. -/
  | config {isDirectory : Bool} {p : Path} : m.isDirectory target = .ok isDirectory →
      Project.StopsAt m (configCandidates s target isDirectory) p →
      Obstacle m s target (.access (.denied p.text))
  /-- The start of the probe fails in no ordinary way. -/
  | probe {program label message : String} : m.resolve s.executable = .ok (some program) →
      m.script [program, s.versionFlag] = .fails (.other label message) →
      Obstacle m s target (.command (.notStarted (.other label message)))
  /-- A number of the version is too long to be read. -/
  | numeral {program : String} {major minor patch run : List Char} :
      m.resolve s.executable = .ok (some program) →
      (installedVersion m s).result = .ok (some (Version.dotted major minor patch)) →
      (∀ run ∈ [major, minor, patch], Decimal.IsRun run) →
      run ∈ [major, minor, patch] → Decimal.maxDigits < run.length →
      Obstacle m s target (.version (.badNumber (.tooLong run.length)))
  /-- There is a version, and the minimum for it has a negative number. -/
  | minimum {program version : String} {minimum : Version} :
      m.resolve s.executable = .ok (some program) →
      (installedVersion m s).result = .ok (some version) →
      Version.parse s.minVersion = .ok minimum → ¬ minimum.IsRelease →
      Obstacle m s target (.version (.negative s.minVersion))

/-! ### The questions of a verification -/

theorem executablePath_eq_error_iff {f : Failure} : executablePath m s = .error f ↔
    (Path.parse s.executable).isAbsolute = true ∧ m.Barred (.parse s.executable) ∧
      f = .access (.denied (Path.parse s.executable).text) := by
  rw [executablePath, Ran.except_mapError_eq_error]
  constructor
  · rintro ⟨e, he, rfl⟩
    obtain ⟨habs, hbarred, rfl⟩ := Machine.resolve_eq_error_iff.mp he
    exact ⟨habs, hbarred, rfl⟩
  · rintro ⟨habs, hbarred, rfl⟩
    exact ⟨_, Machine.resolve_eq_error_iff.mpr ⟨habs, hbarred, rfl⟩, rfl⟩

/-- The search for a config fails if the target or a place for a config cannot be looked up. -/
theorem findProject_eq_error_iff (htarget : m.anchored path = .ok target) {f : Failure} :
    findProject m s path = .error f ↔
      (m.Barred target ∧ f = .access (.denied target.text)) ∨
      ∃ isDirectory p, m.isDirectory target = .ok isDirectory ∧
        Project.StopsAt m (configCandidates s target isDirectory) p ∧
        f = .access (.denied p.text) := by
  have hsearch : Project.find m s.markers path =
      ((m.isDirectory target).map fun isDirectory =>
        (if isDirectory then target else target.parent).ancestors).bind
          (Project.firstIn m
            [⟨s.markers.secondary, .secondaryConfig⟩, ⟨s.markers.primary, .primaryConfig⟩]) := by
    rw [← Project.directories_of_anchored htarget]
    rfl
  rw [findProject, Ran.except_mapError_eq_error, hsearch]
  simp only [Ran.except_bind_eq_error, Ran.except_map_eq_error, Ran.except_map_eq_ok,
    Machine.isDirectory_eq_error_iff, Project.firstIn_eq_error_iff]
  constructor
  · rintro ⟨e, ⟨hbarred, rfl⟩ | ⟨_, ⟨isDirectory, hdir, rfl⟩, p, hp, rfl⟩, rfl⟩
    · exact .inl ⟨hbarred, rfl⟩
    · exact .inr ⟨isDirectory, p, hdir, hp, rfl⟩
  · rintro (⟨hbarred, rfl⟩ | ⟨isDirectory, p, hdir, hp, rfl⟩)
    · exact ⟨_, .inl ⟨hbarred, rfl⟩, rfl⟩
    · exact ⟨_, .inr ⟨_, ⟨isDirectory, hdir, rfl⟩, p, hp, rfl⟩, rfl⟩

theorem label_executableFinding (program : Option String) :
    (executableFinding s program).label = "executable" := by
  cases program <;> rfl

theorem label_configFinding (project : Option Project) :
    (configFinding project).label = "configuration" := by
  cases project <;> rfl

theorem label_of_versionFinding {version : Option String} {finding : Finding}
    (h : versionFinding s version = .ok finding) : finding.label = "version" := by
  cases version with
  | none =>
    cases h
    rfl
  | some version =>
    obtain ⟨supported, -, h⟩ := Ran.except_bind_eq_ok.mp h
    cases supported <;> cases h <;> rfl

/-- The finding about a version is missing if the gate gives no answer. -/
theorem versionFinding_eq_error_iff {version : Option String} {f : Failure} :
    versionFinding s version = .error f ↔
      ∃ found e, version = some found ∧ Version.isSupported found s.minVersion = .error e ∧
        f = .version e := by
  cases version with
  | none => simp [versionFinding]
  | some found =>
    have hbind : versionFinding s (some found) =
        (isSupported s found).bind fun supported =>
          .ok (if supported then ⟨"version", found, true⟩
            else ⟨"version", found ++ " (requires >= " ++ s.minVersion ++ ")", false⟩) := by
      rw [versionFinding]
      cases isSupported s found with
      | error e => rfl
      | ok supported => cases supported <;> rfl
    rw [hbind, Ran.except_bind_eq_error, isSupported, Ran.except_mapError_eq_error]
    simp [eq_comm]

/-! ### Verification -/

/-- A failure of the gate is an obstacle: the version has a number that is too long, or its minimum
is no release. -/
theorem obstacle_of_isSupported {version : String} {e : VersionError} {minimum : Version}
    (hprogram : m.resolve s.executable = .ok (some program))
    (hversion : (installedVersion m s).result = .ok (some version))
    (hminimum : Version.parse s.minVersion = .ok minimum) (htext : s.minVersion = minimum.text)
    (h : Version.isSupported version s.minVersion = .error e) :
    Obstacle m s target (.version e) := by
  obtain ⟨major, minor, patch, hruns, rfl⟩ := runs_of_installedVersion hprogram hversion
  rcases Version.isSupported_runs hruns hminimum with
    ⟨run, hrun, hlong, herror⟩ | ⟨-, ⟨hrelease, herror⟩ | ⟨-, b, hok⟩⟩
  · obtain rfl := Except.error.inj (h.symm.trans herror)
    exact .numeral hprogram hversion hruns hrun hlong
  · obtain rfl := Except.error.inj (h.symm.trans herror)
    rw [← htext]
    exact .minimum hprogram hversion hminimum hrelease
  · cases h.symm.trans hok

/-- Where a verification is not told, there is an obstacle. -/
theorem obstacle_of_verify {values : List (String × Settings.Given)}
    (hs : Settings.check values = .ok s) (htarget : m.anchored path = .ok target) {f : Failure}
    (h : (verify m s path).result = .error f) : Obstacle m s target f := by
  rw [result_verify] at h
  rcases Ran.except_bind_eq_error.mp h with h | ⟨program?, hprogram, h⟩
  · obtain ⟨habs, hbarred, rfl⟩ := executablePath_eq_error_iff.mp h
    exact .executable habs hbarred
  rcases Ran.except_bind_eq_error.mp h with h | ⟨project, -, h⟩
  · rcases (findProject_eq_error_iff htarget).mp h with
      ⟨hbarred, rfl⟩ | ⟨isDirectory, p, hdir, hstops, rfl⟩
    · exact .target hbarred
    · exact .config hdir hstops
  cases program? with
  | none => rcases Ran.except_bind_eq_error.mp h with h | ⟨_, ⟨⟩, h⟩ <;> cases h
  | some program =>
    have hresolve : m.resolve s.executable = .ok (some program) :=
      Ran.except_mapError_eq_ok.mp hprogram
    rcases Ran.except_bind_eq_error.mp h with h | ⟨version, hversion, h⟩
    · obtain ⟨label, message, hscript, rfl⟩ := (installedVersion_eq_error_iff hresolve).mp h
      exact .probe hresolve hscript
    · obtain ⟨found, e, rfl, hgate, rfl⟩ :=
        versionFinding_eq_error_iff.mp (Ran.except_map_eq_error.mp h)
      obtain ⟨minimum, hminimum, htext⟩ := Settings.parse_minVersion hs
      exact obstacle_of_isSupported hresolve hversion hminimum htext hgate

/-- Where there is an obstacle, a verification is not told. -/
theorem not_verify_of_obstacle {values : List (String × Settings.Given)}
    (hs : Settings.check values = .ok s) (htarget : m.anchored path = .ok target) {f : Failure}
    (h : Obstacle m s target f) (v : Verification) : (verify m s path).result ≠ .ok v := by
  intro hv
  obtain ⟨program?, project, version?, finding, hprogram, hproject, hversion, hfinding, -⟩ :=
    verify_eq_ok_iff.mp hv
  have hsome {program : String} (hresolve : m.resolve s.executable = .ok (some program)) :
      program? = some program :=
    Except.ok.inj (hprogram.symm.trans (Ran.except_mapError_eq_ok.mpr hresolve))
  have hgate {program version : String} (hresolve : m.resolve s.executable = .ok (some program))
      (hinstalled : (installedVersion m s).result = .ok (some version)) (e : VersionError) :
      Version.isSupported version s.minVersion ≠ .error e := by
    intro he
    obtain rfl := hsome hresolve
    obtain rfl := Except.ok.inj (hversion.symm.trans hinstalled)
    cases hfinding.symm.trans (versionFinding_eq_error_iff.mpr ⟨version, e, rfl, he, rfl⟩)
  obtain ⟨minimum, hparse, -⟩ := Settings.parse_minVersion hs
  cases h with
  | executable habs hbarred =>
    cases hprogram.symm.trans (executablePath_eq_error_iff.mpr ⟨habs, hbarred, rfl⟩)
  | target hbarred =>
    cases hproject.symm.trans ((findProject_eq_error_iff htarget).mpr (.inl ⟨hbarred, rfl⟩))
  | config hdir hstops =>
    cases hproject.symm.trans
      ((findProject_eq_error_iff htarget).mpr (.inr ⟨_, _, hdir, hstops, rfl⟩))
  | probe hresolve hscript =>
    obtain rfl := hsome hresolve
    cases hversion.symm.trans
      ((installedVersion_eq_error_iff hresolve).mpr ⟨_, _, hscript, rfl⟩)
  | numeral hresolve hinstalled hruns hrun hlong =>
    rcases Version.isSupported_runs hruns hparse with ⟨_, -, -, he⟩ | ⟨hlen, -⟩
    · exact hgate hresolve hinstalled _ he
    · exact absurd (hlen _ hrun) (Nat.not_le.mpr hlong)
  | minimum hresolve hinstalled hminimum hrelease =>
    obtain ⟨major, minor, patch, hruns, rfl⟩ := runs_of_installedVersion hresolve hinstalled
    rcases Version.isSupported_runs hruns hminimum with
      ⟨_, -, -, he⟩ | ⟨-, ⟨-, he⟩ | ⟨hrelease', -⟩⟩
    · exact hgate hresolve hinstalled _ he
    · exact hgate hresolve hinstalled _ he
    · exact hrelease hrelease'

/-- For every path that is absolute and with all settings that pass, a verification that is told has
three findings, about the executable, the configuration and the version. It is told unless there is
an obstacle, and a failure is always that of an obstacle. -/
theorem verify_tells_three_findings {values : List (String × Settings.Given)}
    (hs : Settings.check values = .ok s) (habs : (Path.parse path).isAbsolute = true) :
    (∀ v, (verify m s path).result = .ok v → v.checker = s.checkerName ∧
      v.findings.map Finding.label = ["executable", "configuration", "version"]) ∧
    (∀ f, (verify m s path).result = .error f → Obstacle m s (.parse path) f) ∧
    ((∃ v, (verify m s path).result = .ok v) ↔ ∀ f, ¬ Obstacle m s (.parse path) f) := by
  have htarget : m.anchored path = .ok (.parse path) := Machine.anchored_of_isAbsolute habs
  refine ⟨?_, fun f h => obstacle_of_verify hs htarget h, ?_, ?_⟩
  · intro v h
    obtain ⟨program, project, version, finding, -, -, -, hfinding, rfl⟩ := verify_eq_ok_iff.mp h
    refine ⟨rfl, ?_⟩
    simp [label_executableFinding, label_configFinding, label_of_versionFinding hfinding]
  · rintro ⟨v, hv⟩ f hf
    exact not_verify_of_obstacle hs htarget hf v hv
  · intro hnone
    cases h : (verify m s path).result with
    | ok v => exact ⟨v, rfl⟩
    | error f => exact absurd (obstacle_of_verify hs htarget h) (hnone f)

/-- The sample with a working directory that may not be searched. -/
def sealedSample : Machine :=
  { sample with sealed := [["work"]] }

/-- On the sample a verification is told, so there is no obstacle; in the directory that may not be
searched there is one. -/
theorem verify_tells_three_findings_on_sample :
    Settings.check [] = .ok .standard ∧
      (∀ f, ¬ Obstacle sample .standard (.parse "/work/app.js") f) ∧
      Obstacle sealedSample .standard (.parse "/work/app.js") (.access (.denied "/work/app.js")) := by
  have hs : Settings.check [] = .ok .standard := by decide +kernel
  have htold : (verify sample .standard "/work/app.js").result = .ok
      ⟨"biome", [⟨"executable", "Found at /opt/biome", true⟩,
        ⟨"configuration", "Found at /work/biome.jsonc", true⟩, ⟨"version", "1.9.4", true⟩]⟩ := by
    decide +kernel
  have hdenied : (verify sealedSample .standard "/work/app.js").result =
      .error (.access (.denied "/work/app.js")) := by
    decide +kernel
  exact ⟨hs, (verify_tells_three_findings hs (by decide)).2.2.mp ⟨_, htold⟩,
    (verify_tells_three_findings hs (by decide)).2.1 _ hdenied⟩

/-- With the standard settings, for an absolute path in a directory that may not be searched, no
verification is told. -/
theorem verify_in_sealed_directory :
    Settings.check [] = .ok .standard ∧ (Path.parse "/work/app.js").isAbsolute = true ∧
      ∀ v, (verify sealedSample .standard "/work/app.js").result ≠ .ok v := by
  have hdenied : (verify sealedSample .standard "/work/app.js").result =
      .error (.access (.denied "/work/app.js")) := by
    decide +kernel
  refine ⟨by decide +kernel, by decide, fun v hv => ?_⟩
  cases hdenied.symm.trans hv

end LintBridge.Linter
