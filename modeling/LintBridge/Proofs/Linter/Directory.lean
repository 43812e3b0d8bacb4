import LintBridge.Proofs.Linter.Launches
import LintBridge.Proofs.Linter.Readiness
import LintBridge.Proofs.Project

/-!
Where a check runs the linter.

A check lints only what is ready, so a config applies to the path; and then the linter runs in the
directory of that config. What marks the dependencies makes no difference to a check.
-/

namespace LintBridge.Linter

variable {m : Machine} {s : Settings} {path : String} {target : Path} {buffer : Option String}

theorem findProject_eq_ok_iff {found : Option Project} :
    findProject m s path = .ok found ↔ Project.find m s.markers path = .ok found :=
  Ran.except_mapError_eq_ok

/-- A config applies to a path that is ready. -/
theorem find_of_isReady (h : (isReady m s path).result = .ok true) :
    ∃ p, Project.find m s.markers path = .ok (some p) := by
  obtain ⟨program, version, project, -, -, -, hproject⟩ := isReady_eq_true_iff.mp h
  exact ⟨project, findProject_eq_ok_iff.mp hproject⟩

/-- The project that the linter runs in is where the config is, if one applies. -/
theorem directory_of_forLinter {p : Project} {located : Option Project}
    (hfind : Project.find m s.markers path = .ok (some p))
    (hlocated : (Project.forLinter m s.markers path).result = .ok located) :
    located.map (·.directory) = some p.directory := by
  rw [Project.result_forLinter] at hlocated
  obtain ⟨q, rfl, hdirectory, -⟩ := Project.locate_of_find_some hfind hlocated
  exact congrArg some hdirectory

/-- What a check starts is a probe, or a lint in the directory of the config that applies. -/
theorem mem_launches_check {sink : Sink} {l : Launch}
    (h : l ∈ (check m s path sink buffer).launches) :
    (∃ program, l = probeLaunch s program) ∨
      ∃ program target p, m.anchored path = .ok target ∧
        Project.find m s.markers target.text = .ok (some p) ∧
        l = lintLaunch s target (some p.directory) program := by
  cases htarget : m.anchored path with
  | error e => simp [check_of_error htarget] at h
  | ok target =>
    rw [launches_check htarget, launches_isReady, List.mem_append] at h
    rcases h with h | h
    · obtain ⟨program, -, hl⟩ := mem_starts_iff.mp h
      exact .inl ⟨program, hl⟩
    · split at h
      · next hready =>
        obtain ⟨p, hp⟩ := find_of_isReady hready
        rw [launches_lint, Machine.anchored_text_of_anchored htarget] at h
        dsimp only at h
        split at h
        · cases h
        · next located hlocated =>
          rw [directory_of_forLinter hp hlocated] at h
          obtain ⟨program, -, hl⟩ := mem_starts_iff.mp h
          exact .inr ⟨program, target, p, rfl, hp, hl⟩
      · cases h

/-! ### The directory of the dependencies -/

/-- The settings with another name for the directory of the dependencies. -/
def withDependencies (s : Settings) (name : String) : Settings :=
  { s with markers := { s.markers with dependencies := name } }

/-- Readiness does not look for the dependencies. -/
theorem isReady_withDependencies (m : Machine) (s : Settings) (name path : String) :
    isReady m (withDependencies s name) path = isReady m s path := rfl

theorem lint_withDependencies {p : Project} (name : String)
    (hpath : m.anchored path = .ok target)
    (hfind : Project.find m s.markers target.text = .ok (some p)) :
    lint m (withDependencies s name) path buffer = lint m s path buffer := by
  have hlocate : Project.locate m (withDependencies s name).markers target.text =
      Project.locate m s.markers target.text :=
    Project.locate_dependencies_irrelevant hfind name
  have hcwd : workingDirectory m (withDependencies s name) target.text =
      workingDirectory m s target.text := by
    simp only [workingDirectory, projectForLinter, Project.forLinter, hlocate]
  rw [lint_of_anchored hpath, lint_of_anchored hpath]
  simp only [lintAnchored, hcwd]
  rfl

/-- What a check does is the same whatever marks the dependencies. -/
theorem check_withDependencies (m : Machine) (s : Settings) (name path : String) (sink : Sink)
    (buffer : Option String) :
    check m (withDependencies s name) path sink buffer = check m s path sink buffer := by
  cases htarget : m.anchored path with
  | error e => rw [check_of_error htarget, check_of_error htarget]
  | ok target =>
    rw [check_of_anchored htarget, check_of_anchored htarget, isReady_withDependencies]
    cases hready : (isReady m s target.text).result with
    | error e => rw [Ran.andThen_error hready, Ran.andThen_error hready]
    | ok ready =>
      rw [Ran.andThen_ok hready, Ran.andThen_ok hready]
      cases ready with
      | false => simp
      | true =>
        obtain ⟨p, hp⟩ := find_of_isReady hready
        rw [lint_withDependencies name (Machine.anchored_text_of_anchored htarget) hp]

/-- The config that makes a path ready is the one that the linter runs by. Where both searches have
an answer, a config that applies to the path gives the directory of the linter, by a config as well;
without one the linter runs in the directory of dependencies or in none. So every lint that a check
starts runs in the directory of the config that applies, and the dependencies are never made use of.
-/
theorem lint_runs_where_config_is (m : Machine) :
    (∀ names path found located, Project.find m names path = .ok found →
      (Project.forLinter m names path).result = .ok located →
      match found with
      | some p => ∃ q, located = some q ∧ q.directory = p.directory ∧ q.marker ≠ .dependencies
      | none => ∀ q, located = some q → q.marker = .dependencies) ∧
    (∀ s path sink buffer, ∀ l ∈ (check m s path sink buffer).launches,
      (∃ program, l = probeLaunch s program) ∨
        ∃ program target p, m.anchored path = .ok target ∧
          Project.find m s.markers target.text = .ok (some p) ∧
          l = lintLaunch s target (some p.directory) program) ∧
    ∀ s name path sink buffer,
      check m (withDependencies s name) path sink buffer = check m s path sink buffer := by
  refine ⟨?agree, fun s path sink buffer l => mem_launches_check, check_withDependencies m⟩
  intro names path found located hfind hlocated
  rw [Project.result_forLinter] at hlocated
  cases found with
  | some p => exact Project.locate_of_find_some hfind hlocated
  | none =>
    rintro q rfl
    exact Project.locate_of_find_none hfind hlocated

/-- In the sample the secondary config applies, and the linter runs by the primary one beside it. -/
theorem lint_runs_where_config_is_on_sample :
    ∃ q, (Project.forLinter sample .standard "app.js").result = .ok (some q) ∧
      q.directory = .parse "/work" ∧ q.marker ≠ .dependencies := by
  have hfind : Project.find sample .standard "app.js" =
      .ok (some ⟨.parse "/work", .secondaryConfig, .parse "/work/biome.jsonc"⟩) := by
    decide +kernel
  have hlocated : (Project.forLinter sample .standard "app.js").result =
      .ok (some ⟨.parse "/work", .primaryConfig, .parse "/work/biome.json"⟩) := by
    decide +kernel
  obtain ⟨q, hq, hdirectory, hmarker⟩ :=
    (lint_runs_where_config_is sample).1 _ _ _ _ hfind hlocated
  exact ⟨q, hlocated.trans (congrArg _ hq), hdirectory, hmarker⟩

end LintBridge.Linter
