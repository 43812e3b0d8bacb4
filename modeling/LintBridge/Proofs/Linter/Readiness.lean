import LintBridge.Linter.Readiness
import LintBridge.Linter.Verification
import LintBridge.Proofs.Machine.Ran

/-!
Readiness against verification.

Both put the same four questions: for the executable, its version, whether the version is taken, and
the config. Readiness puts the config last and stops at the first bad answer; verification puts it
second and goes on. So a verification may fail where readiness has its answer already, but wherever
both have one they agree.
-/

namespace LintBridge.Linter

variable {m : Machine} {s : Settings} {path : String}

/-! ### The results, as sequences of the questions -/

theorem result_isReadyWith (version : String) :
    (isReadyWith m s path (some version)).result =
      (isSupported s version).bind fun supported =>
        if supported then (findProject m s path).map Option.isSome else .ok false := by
  simp only [isReadyWith, Ran.bind_eq, Ran.result_andThen, Ran.result_of]
  congr 1
  funext supported
  cases supported with
  | false => rfl
  | true =>
    cases h : findProject m s path with
    | error e => rfl
    | ok project => cases project <;> rfl

theorem result_isReady : (isReady m s path).result =
    (executablePath m s).bind fun
      | none => .ok false
      | some _ => (installedVersion m s).result.bind fun
        | none => .ok false
        | some version => (isSupported s version).bind fun supported =>
            if supported then (findProject m s path).map Option.isSome else .ok false := by
  rw [isReady, Ran.bind_eq, Ran.result_andThen]
  congr 1
  funext program
  cases program with
  | none => rfl
  | some program =>
    simp only [Ran.bind_eq, Ran.result_andThen]
    congr 1
    funext version
    cases version with
    | none => rfl
    | some version => exact result_isReadyWith version

theorem result_verify : (verify m s path).result =
    (executablePath m s).bind fun program => (findProject m s path).bind fun project =>
      (if program.isSome then (installedVersion m s).result else .ok none).bind fun version =>
        (versionFinding s version).map fun finding =>
          ⟨s.checkerName, [executableFinding s program, configFinding project, finding]⟩ := by
  simp only [verify, Ran.bind_eq, Ran.result_andThen, Ran.result_of]
  congr 1
  funext program
  congr 1
  funext project
  cases program with
  | none => cases h : versionFinding s none <;> rfl
  | some program =>
    simp only [Option.isSome_some, if_true, Ran.result_andThen]
    rfl

/-! ### What good answers mean -/

/-- A path is ready if the executable is found, it reports a version, the version is taken, and a
config applies to the path. -/
theorem isReady_eq_true_iff : (isReady m s path).result = .ok true ↔
    ∃ program version project, executablePath m s = .ok (some program) ∧
      (installedVersion m s).result = .ok (some version) ∧ isSupported s version = .ok true ∧
      findProject m s path = .ok (some project) := by
  rw [result_isReady]
  constructor
  · intro h
    obtain ⟨_ | program, hprogram, h⟩ := Ran.except_bind_eq_ok.mp h
    · cases h
    obtain ⟨_ | version, hversion, h⟩ := Ran.except_bind_eq_ok.mp h
    · cases h
    obtain ⟨_ | _, hsupported, h⟩ := Ran.except_bind_eq_ok.mp h
    · cases h
    obtain ⟨_ | project, hproject, h⟩ := Ran.except_map_eq_ok.mp h
    · cases h
    exact ⟨program, version, project, hprogram, hversion, hsupported, hproject⟩
  · rintro ⟨program, version, project, hprogram, hversion, hsupported, hproject⟩
    simp [hprogram, hversion, hsupported, hproject, Except.bind, Except.map]

theorem verify_eq_ok_iff {v : Verification} : (verify m s path).result = .ok v ↔
    ∃ program project version finding, executablePath m s = .ok program ∧
      findProject m s path = .ok project ∧
      (if program.isSome then (installedVersion m s).result else .ok none) = .ok version ∧
      versionFinding s version = .ok finding ∧
      ⟨s.checkerName, [executableFinding s program, configFinding project, finding]⟩ = v := by
  simp only [result_verify, Ran.except_bind_eq_ok, Ran.except_map_eq_ok]
  constructor
  · rintro ⟨program, hprogram, project, hproject, version, hversion, finding, hfinding, hv⟩
    exact ⟨program, project, version, finding, hprogram, hproject, hversion, hfinding, hv⟩
  · rintro ⟨program, project, version, finding, hprogram, hproject, hversion, hfinding, hv⟩
    exact ⟨program, hprogram, project, hproject, version, hversion, finding, hfinding, hv⟩

theorem ok_executableFinding (program : Option String) :
    (executableFinding s program).ok = program.isSome := by
  cases program <;> rfl

theorem ok_configFinding (project : Option Project) :
    (configFinding project).ok = project.isSome := by
  cases project <;> rfl

/-- The finding about a version that was reported is good if the version is taken. -/
theorem versionFinding_some_iff {version : String} {ok : Bool} :
    (versionFinding s (some version)).map Finding.ok = .ok ok ↔ isSupported s version = .ok ok := by
  cases h : isSupported s version with
  | error e => simp [versionFinding, h, bind, Except.bind, Except.map]
  | ok supported =>
    cases supported <;>
      simp [versionFinding, h, bind, Except.bind, pure, Except.pure, Except.map]

/-! ### Agreement -/

/-- If a verification is told, readiness is told as well, and says whether all findings are good. -/
theorem isReady_of_verify {v : Verification} (h : (verify m s path).result = .ok v) :
    (isReady m s path).result = .ok v.ok := by
  obtain ⟨program, project, version, finding, hprogram, hproject, hversion, hfinding, rfl⟩ :=
    verify_eq_ok_iff.mp h
  have hok : Verification.ok ⟨s.checkerName,
      [executableFinding s program, configFinding project, finding]⟩ =
        (program.isSome && (project.isSome && finding.ok)) := by
    simp [Verification.ok, ok_executableFinding, ok_configFinding]
  rw [result_isReady, hprogram, hok]
  cases program with
  | none => rfl
  | some program =>
    simp only [Option.isSome_some, if_true] at hversion
    cases version with
    | none =>
      cases hfinding
      simp [hversion, Except.bind]
    | some version =>
      have hsupported : isSupported s version = .ok finding.ok :=
        versionFinding_some_iff.mp (by rw [hfinding]; rfl)
      cases hf : finding.ok <;>
        simp [hversion, hsupported, hproject, hf, Except.bind, Except.map]

/-- If a path is ready, its verification is told, and all its findings are good. -/
theorem verify_of_isReady (h : (isReady m s path).result = .ok true) :
    ∃ v, (verify m s path).result = .ok v ∧ v.findings.length = 3 ∧
      ∀ f ∈ v.findings, f.ok = true := by
  obtain ⟨program, version, project, hprogram, hversion, hsupported, hproject⟩ :=
    isReady_eq_true_iff.mp h
  obtain ⟨finding, hfinding, hok⟩ :=
    Ran.except_map_eq_ok.mp (versionFinding_some_iff.mpr hsupported)
  refine ⟨_, verify_eq_ok_iff.mpr
    ⟨some program, some project, some version, finding, hprogram, hproject, hversion, hfinding, rfl⟩,
    rfl, ?_⟩
  simp [executableFinding, configFinding, hok]

/-- Readiness and verification agree: where a verification is told, readiness says whether all its
findings are good; where a path is ready, there is a verification, and its three findings are good;
and where readiness fails, verification fails. -/
theorem readiness_agrees_with_verification (m : Machine) (s : Settings) (path : String) :
    (∀ v, (verify m s path).result = .ok v → (isReady m s path).result = .ok v.ok) ∧
      ((isReady m s path).result = .ok true →
        ∃ v, (verify m s path).result = .ok v ∧ v.findings.length = 3 ∧
          ∀ f ∈ v.findings, f.ok = true) ∧
      ∀ e, (isReady m s path).result = .error e → ∃ e', (verify m s path).result = .error e' := by
  refine ⟨fun v h => isReady_of_verify h, verify_of_isReady, ?_⟩
  intro e he
  cases hv : (verify m s path).result with
  | error e' => exact ⟨e', rfl⟩
  | ok v =>
    have hready := isReady_of_verify hv
    rw [he] at hready
    cases hready

/-- A machine with the linter on the search path, in a project that has both config files. The
linter finds nothing to tell, though it ends with status one. -/
def sample : Machine where
  cwd := ["work"]
  isPathName_of_mem_cwd := by decide
  environment := [("PATH", "/opt")]
  account := "root"
  homes := [("root", "/root")]
  entries := [(["opt"], .directory), (["opt", "biome"], .file []), (["work"], .directory),
    (["work", "biome.json"], .file []), (["work", "biome.jsonc"], .file [])]
  executable := [["opt", "biome"]]
  unreadable := []
  sealed := []
  scripts := [("--version", .finishes 0 (Text.Utf8.encode "Version: 1.9.4\n".toList) []),
    ("lint", .finishes 1 (Text.Utf8.encode "\x7b\"diagnostics\": []\x7d".toList) [])]

/-- On the sample, outside the project, in it, and for a path that names no file. -/
theorem readiness_agrees_with_verification_on_sample :
    (isReady sample .standard "/app.js").result = .ok false ∧
      (∃ v, (verify sample .standard "app.js").result = .ok v ∧ v.findings.length = 3 ∧
        ∀ f ∈ v.findings, f.ok = true) ∧
      ∃ e, (verify sample .standard "~nobody/app.js").result = .error e := by
  have houtside := (readiness_agrees_with_verification sample .standard "/app.js").1
    ⟨"biome", [⟨"executable", "Found at /opt/biome", true⟩,
      ⟨"configuration", "No Biome config found", false⟩, ⟨"version", "1.9.4", true⟩]⟩ (by decide +kernel)
  have hwithin := (readiness_agrees_with_verification sample .standard "app.js").2.1
    (by decide +kernel)
  have hnowhere := (readiness_agrees_with_verification sample .standard "~nobody/app.js").2.2
    (.access .noHome) (by decide +kernel)
  exact ⟨houtside, hwithin, hnowhere⟩

end LintBridge.Linter
