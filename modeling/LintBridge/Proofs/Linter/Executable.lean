import LintBridge.Proofs.Linter.Launches
import LintBridge.Proofs.Machine.Program

/-!
One program for the probe and the lint.

The probe runs where the host is and the lint in the directory of the project, and both are started
with the text that the executable is found under. An absolute text leads to one file from wherever a
process is started; a relative one is looked for again in the directory of the project. The text is
absolute if the executable is, or the directory of the search path that it was found in
(`program_is_fixed_where_absolute`), and otherwise the lint need not start the program that the
probe was made with (`relative_program_is_lost`).
-/

namespace LintBridge.Linter

variable {m : Machine} {s : Settings} {program : String}

/-- Whatever a checker starts, it starts the program that its executable stands for. -/
theorem IsStart.head?_arguments {l : Launch} (hstart : IsStart m s l)
    (h : m.resolve s.executable = .ok (some program)) : l.arguments.head? = some program := by
  have hsame {other : String} (hother : m.resolve s.executable = .ok (some other)) :
      other = program := by
    rw [h] at hother
    cases hother
    rfl
  cases hstart with
  | probe hother => exact congrArg some (hsame hother)
  | lint hother => exact congrArg some (hsame hother)

/-- The text that the executable is found under leads to a file, and readiness and a lint start
nothing but this text. It is absolute exactly if the executable is, or if the executable is a name
without slash that was found in an absolute directory of the search path; and then it leads to the
same file for a process that is started in any other directory. -/
theorem program_is_fixed_where_absolute (m : Machine) (s : Settings) {program : String}
    (h : m.resolve s.executable = .ok (some program)) :
    ((Path.parse program).isAbsolute = true ↔ (Path.parse s.executable).isAbsolute = true ∨
      '/' ∉ s.executable.toList ∧ ∃ directory ∈ m.searchDirectories,
        (Path.parse directory).isAbsolute = true ∧
          program = Machine.inDirectory directory s.executable) ∧
    (∃ place, m.LeadsToFile program place ∧
      ((Path.parse program).isAbsolute = true →
        ∀ cwd hcwd, (m.movedTo cwd hcwd).LeadsToFile program place)) ∧
    (∀ path, ∀ l ∈ (isReady m s path).launches, l.arguments.head? = some program) ∧
    ∀ path buffer, ∀ l ∈ (lint m s path buffer).launches, l.arguments.head? = some program := by
  obtain ⟨place, hplace⟩ := Machine.exists_leadsToFile_of_resolve h
  refine ⟨Machine.isAbsolute_of_resolve h, ⟨place, hplace, ?fixed⟩, ?ready, ?lint⟩
  case fixed =>
    intro habs cwd hcwd
    exact hplace.movedTo habs cwd hcwd
  case ready =>
    intro path l hl
    exact (isStart_isReady l hl).head?_arguments h
  case lint =>
    intro path buffer l hl
    exact (isStart_lint l hl).head?_arguments h

/-- On the sample, whose search path names an absolute directory: from below the project as well as
from the project itself. -/
theorem program_is_fixed_where_absolute_on_sample :
    sample.resolve "biome" = .ok (some "/opt/biome") ∧
      ∃ place, sample.LeadsToFile "/opt/biome" place ∧
        (sample.movedTo ["work", "web"] (by decide)).LeadsToFile "/opt/biome" place := by
  have hresolve : sample.resolve Settings.standard.executable = .ok (some "/opt/biome") := by
    decide +kernel
  obtain ⟨-, ⟨place, hplace, hmoved⟩, -⟩ :=
    program_is_fixed_where_absolute sample .standard hresolve
  exact ⟨hresolve, place, hplace, hmoved (by decide) ["work", "web"] (by decide)⟩

/-- The sample with its linter among the files that the host is in, and with the config in a
directory below. -/
def localSample : Machine :=
  { sample with
    entries := [(["work"], .directory), (["work", "bin"], .directory),
      (["work", "bin", "biome"], .file []), (["work", "web"], .directory),
      (["work", "web", "biome.json"], .file [])]
    executable := [["work", "bin", "biome"]] }

/-- A program with a relative name is told by that name. It is there for the probe, and a process
that is started in the directory of the project, as the lint is, does not find it. -/
theorem relative_program_is_lost :
    localSample.resolve "bin/biome" = .ok (some "bin/biome") ∧
      (Path.parse "bin/biome").isAbsolute = false ∧
      localSample.locateText? "bin/biome" = some ["work", "bin", "biome"] ∧
      (check localSample { Settings.standard with executable := "bin/biome" } "web/app.js"
        .acceptAll none).launches =
          [⟨["bin/biome", "--version"], none, none, true⟩,
            ⟨["bin/biome", "lint", "--json", "/work/web/app.js"], some "/work/web", none, true⟩] ∧
      (localSample.movedTo ["work", "web"] (by decide)).locateText? "bin/biome" = none := by
  decide +kernel

end LintBridge.Linter
