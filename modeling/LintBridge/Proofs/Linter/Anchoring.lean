import LintBridge.Proofs.Linter.Directory
import LintBridge.Proofs.Linter.Status
import LintBridge.Proofs.Machine.Program

/-!
A path and what it is anchored as.

Every operation anchors the path that it is given, and most of them hand it on to others that anchor
it again. Since an anchored path is anchored as itself, it makes no difference how often that is
done: an operation does the same for a path and for the text of its anchored path (`Alike`). All
that is told of a path is told by this text. It also names the same path in any other directory, so
the directory in which the linter is started, which is that of the project, has no part in it: with
another project the linter is started with the same arguments elsewhere, and the same is told
(`lint_in_other_directory`).
-/

namespace LintBridge

/-! ### Searches -/

namespace Project

variable {m : Machine} {path path' : String}

/-- A search depends on the directories above a path, and on nothing else of the path. -/
theorem search_congr (h : directories m path = directories m path') (markers : List Marker) :
    search m markers path = search m markers path' := by
  rw [search, search, h]

theorem find_congr (h : directories m path = directories m path') (names : MarkerNames) :
    find m names path = find m names path' :=
  search_congr h _

theorem locate_congr (h : directories m path = directories m path') (names : MarkerNames) :
    locate m names path = locate m names path' := by
  rw [locate, locate, search_congr h, search_congr h]

/-- The directories above a path are those above its anchored path. -/
theorem directories_text_of_anchored {target : Path} (h : m.anchored path = .ok target) :
    directories m path = directories m target.text := by
  rw [directories_of_anchored h, directories_of_anchored (Machine.anchored_text_of_anchored h)]

end Project

namespace Linter

variable {m : Machine} {s : Settings} {path : String} {target : Path} {buffer : Option String}

/-! ### Operations on a path and on its anchored path -/

/-- The operations do the same for two texts. Readiness and the search for a directory write the
text that they are given into their notes, and are compared without these. -/
structure Alike (m : Machine) (s : Settings) (path path' : String) : Prop where
  directories : Project.directories m path = Project.directories m path'
  find : ∀ names, Project.find m names path = Project.find m names path'
  runsIn : (workingDirectory m s path).result = (workingDirectory m s path').result
  ready : (isReady m s path).result = (isReady m s path').result
  probes : (isReady m s path).launches = (isReady m s path').launches
  verified : verify m s path = verify m s path'
  linted : ∀ buffer, lint m s path buffer = lint m s path' buffer
  checked : ∀ sink buffer, check m s path sink buffer = check m s path' sink buffer

theorem result_workingDirectory (m : Machine) (s : Settings) (path : String) :
    (workingDirectory m s path).result =
      ((Project.locate m s.markers path).mapError .access).map fun project =>
        project.map (·.directory) := by
  rw [workingDirectory, Ran.bind_eq, Ran.result_andThen, projectForLinter]
  show (Except.mapError _ (Project.forLinter m s.markers path).result).bind _ = _
  rw [Project.result_forLinter]
  cases Project.locate m s.markers path <;> rfl

/-- The operations do the same for a path and for the text of its anchored path. -/
theorem alike_of_anchored (s : Settings) (h : m.anchored path = .ok target) :
    Alike m s path target.text := by
  have htext : m.anchored target.text = .ok target := Machine.anchored_text_of_anchored h
  have hdirectories := Project.directories_text_of_anchored h
  have hfind : findProject m s path = findProject m s target.text := by
    rw [findProject, findProject, Project.find_congr hdirectories]
  exact {
    directories := hdirectories
    find := Project.find_congr hdirectories
    runsIn := by
      rw [result_workingDirectory, result_workingDirectory, Project.locate_congr hdirectories]
    ready := by rw [result_isReady, result_isReady, hfind]
    probes := by rw [launches_isReady, launches_isReady]
    verified := by rw [verify, verify, hfind]
    linted := fun buffer => by rw [lint_of_anchored h, lint_of_anchored htext]
    checked := fun sink buffer => by rw [check_of_anchored h, check_of_anchored htext] }

/-! ### What is told of a path -/

/-- A lint starts the linter with the text of the anchored path, in the directory of the project. -/
theorem mem_launches_lint (h : m.anchored path = .ok target) {l : Launch}
    (hl : l ∈ (lint m s path buffer).launches) :
    ∃ cwd program, (workingDirectory m s path).result = .ok cwd ∧
      l = lintLaunch s target cwd program := by
  rw [(alike_of_anchored s h).runsIn]
  rw [lint_of_anchored h] at hl
  cases hcwd : (workingDirectory m s target.text).result with
  | error e =>
    rw [(lintAnchored_of_error hcwd).2] at hl
    cases hl
  | ok cwd =>
    rw [launches_lintAnchored hcwd] at hl
    obtain ⟨program, -, rfl⟩ := mem_starts_iff.mp hl
    exact ⟨cwd, program, rfl, rfl⟩

/-- What a check starts is the probe, or what the lint of the path starts. -/
theorem probe_or_lint_of_check (h : m.anchored path = .ok target) {sink : Sink} {l : Launch}
    (hl : l ∈ (check m s path sink buffer).launches) :
    (∃ program, l = probeLaunch s program) ∨ l ∈ (lint m s path buffer).launches := by
  rw [launches_check h, launches_isReady, List.mem_append, ← (alike_of_anchored s h).linted] at hl
  rcases hl with hl | hl
  · obtain ⟨program, -, rfl⟩ := mem_starts_iff.mp hl
    exact .inl ⟨program, rfl⟩
  · split at hl
    · exact .inr hl
    · cases hl

/-- The problems of a lint are those of the anchored path. -/
theorem filename_of_lint (h : m.anchored path = .ok target) {problems : List Problem}
    (hproblems : (lint m s path buffer).result = .ok problems) :
    ∀ p ∈ problems, p.filename = some target.text := by
  rw [lint_of_anchored h] at hproblems
  obtain ⟨program, cwd, status, out, err, -, -, -, htranslate⟩ := lintAnchored_eq_ok hproblems
  intro p hp
  have howner := Report.owner_of_mem_translate htranslate p hp
  exact congrArg Owner.filename howner

/-- What a check publishes is the lint of the anchored path, under the text of that path. -/
theorem mem_published_check (h : m.anchored path = .ok target) {sink : Sink} {p : Publication}
    (hp : p ∈ (check m s path sink buffer).published) :
    p.filename = target.text ∧ (lint m s path buffer).result = .ok p.problems := by
  have hlint := (alike_of_anchored s h).linted buffer
  rw [published_check h, ← hlint] at hp
  split at hp
  · next problems _ hproblems =>
    split at hp
    · obtain rfl := List.mem_singleton.mp hp
      exact ⟨rfl, hproblems⟩
    · cases hp
  · cases hp

/-! ### The directory in which the linter is started -/

theorem map_starts (f : Launch → Launch) (how : String → Launch) :
    (starts m s how).map f = starts m s fun program => f (how program) := by
  unfold starts
  split <;> rfl

/-- A lint tells the same, and starts the linter with the same arguments, in whatever directory the
linter is started: with other names for the markers it may be started elsewhere, and that is all. -/
theorem lint_in_other_directory (h : m.anchored path = .ok target) (names : MarkerNames)
    {cwd cwd' : Option Path} (hcwd : (workingDirectory m s path).result = .ok cwd)
    (hcwd' : (workingDirectory m { s with markers := names } path).result = .ok cwd')
    (buffer : Option String) :
    (lint m { s with markers := names } path buffer).result = (lint m s path buffer).result ∧
      (lint m { s with markers := names } path buffer).launches =
        (lint m s path buffer).launches.map fun l => { l with cwd := cwd'.map Path.text } := by
  rw [(alike_of_anchored _ h).runsIn] at hcwd hcwd'
  rw [lint_of_anchored h, lint_of_anchored h]
  constructor
  · rw [result_lintAnchored, result_lintAnchored, hcwd, hcwd']
    rfl
  · rw [launches_lintAnchored hcwd, launches_lintAnchored hcwd', map_starts]
    rfl

/-- Paths are anchored once. What a path is anchored as is absolute and is anchored as itself, and
every operation does the same for the path and for the text of what it is anchored as. The linter is
started with that text, and under it the problems are told and published. It names the same path in
every directory, and where the linter is started in another one, no more than that is different. -/
theorem paths_are_anchored_once (s : Settings) (h : m.anchored path = .ok target) :
    (target.isAbsolute = true ∧ Path.parse target.text = target ∧
      m.anchored target.text = .ok target ∧
      ∀ cwd hcwd, (m.movedTo cwd hcwd).anchored target.text = .ok target) ∧
    Alike m s path target.text ∧
    (∀ buffer, (∀ l ∈ (lint m s path buffer).launches, ∃ cwd program,
        (workingDirectory m s path).result = .ok cwd ∧ l = lintLaunch s target cwd program) ∧
      ∀ problems, (lint m s path buffer).result = .ok problems →
        ∀ p ∈ problems, p.filename = some target.text) ∧
    (∀ sink buffer, (∀ l ∈ (check m s path sink buffer).launches,
        (∃ program, l = probeLaunch s program) ∨ l ∈ (lint m s path buffer).launches) ∧
      ∀ p ∈ (check m s path sink buffer).published,
        p.filename = target.text ∧ (lint m s path buffer).result = .ok p.problems) ∧
    ∀ names cwd cwd' buffer, (workingDirectory m s path).result = .ok cwd →
      (workingDirectory m { s with markers := names } path).result = .ok cwd' →
      (lint m { s with markers := names } path buffer).result = (lint m s path buffer).result ∧
        (lint m { s with markers := names } path buffer).launches =
          (lint m s path buffer).launches.map fun l => { l with cwd := cwd'.map Path.text } := by
  refine ⟨?absolute, alike_of_anchored s h, ?lint, ?check, ?elsewhere⟩
  case absolute =>
    have habs := Machine.isAbsolute_of_anchored h
    exact ⟨habs, Path.parse_text habs, Machine.anchored_text habs,
      fun _ _ => Machine.anchored_text habs⟩
  case lint =>
    intro buffer
    constructor
    · intro l hl
      exact mem_launches_lint h hl
    · intro problems hproblems
      exact filename_of_lint h hproblems
  case check =>
    intro sink buffer
    constructor
    · intro l hl
      exact probe_or_lint_of_check h hl
    · intro p hp
      exact mem_published_check h hp
  case elsewhere =>
    intro names cwd cwd' buffer hcwd hcwd'
    exact lint_in_other_directory h names hcwd hcwd' buffer

/-- On the sample, for a path with points and slashes that could be left out, and for one in the
home directory; and for the first of them in no project, since no marker has the names that are set.
-/
theorem paths_are_anchored_once_on_sample :
    sample.anchored "./../work//app.js/" = .ok (.parse "/work/../work/app.js") ∧
      check sample .standard "./../work//app.js/" .acceptAll none =
        check sample .standard "/work/../work/app.js" .acceptAll none ∧
      sample.anchored "~/app.js" = .ok (.parse "/root/app.js") ∧
      lint sample .standard "~/app.js" none = lint sample .standard "/root/app.js" none ∧
      (lint sample { Settings.standard with markers := ⟨"x", "y", "z"⟩ } "./../work//app.js/"
          none).launches =
        (lint sample .standard "./../work//app.js/" none).launches.map fun l =>
          { l with cwd := none } := by
  have hwork : sample.anchored "./../work//app.js/" = .ok (.parse "/work/../work/app.js") := by
    decide +kernel
  have hhome : sample.anchored "~/app.js" = .ok (.parse "/root/app.js") := by decide +kernel
  have hworkText : (Path.parse "/work/../work/app.js").text = "/work/../work/app.js" := by
    decide +kernel
  have hhomeText : (Path.parse "/root/app.js").text = "/root/app.js" := by decide +kernel
  have hproject : (workingDirectory sample .standard "./../work//app.js/").result =
      .ok (some (.parse "/work/../work")) := by decide +kernel
  have hnone : (workingDirectory sample { Settings.standard with markers := ⟨"x", "y", "z"⟩ }
      "./../work//app.js/").result = .ok none := by decide +kernel
  obtain ⟨-, hworkAlike, -, -, helsewhere⟩ := paths_are_anchored_once .standard hwork
  obtain ⟨-, hhomeAlike, -⟩ := paths_are_anchored_once .standard hhome
  rw [hworkText] at hworkAlike
  rw [hhomeText] at hhomeAlike
  exact ⟨hwork, hworkAlike.checked .acceptAll none, hhome, hhomeAlike.linted none,
    (helsewhere _ _ _ none hproject hnone).2⟩

end Linter
end LintBridge
