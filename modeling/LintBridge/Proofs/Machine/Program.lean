import LintBridge.Machine.Program
import LintBridge.Proofs.Machine.Place
import LintBridge.Proofs.Machine.Ran

/-!
The text that a program is found under.

A program that an absolute name stands for is told by an absolute text. By another name it is told
as it was looked for: by the name itself if that has a slash in it, and otherwise by the name in a
directory of the search path (`Machine.cases_of_resolve`). So the text is absolute only if the name
or the directory is (`Machine.isAbsolute_of_resolve`). It always leads to a file
(`Machine.exists_leadsToFile_of_resolve`), and an absolute one leads to the same file from every
working directory (`Machine.LeadsToFile.movedTo`).
-/

namespace LintBridge.Machine

variable {m : Machine} {name directory program text : String}

/-! ### The search for a program -/

/-- A name without slash is absolute in a directory exactly if the directory is. -/
theorem isAbsolute_inDirectory_iff (h : '/' ∉ name.toList) :
    (Path.parse (inDirectory directory name)).isAbsolute = true ↔
      (Path.parse directory).isAbsolute = true := by
  have hname : name.toList.head? ≠ some '/' := fun hhead => h (List.mem_of_mem_head? hhead)
  rw [Path.isAbsolute_parse_iff, Path.isAbsolute_parse_iff, inDirectory]
  by_cases hempty : directory = ""
  · simp [hempty, hname]
  · have hchars : directory.toList ≠ [] := fun hnil => hempty (String.toList_eq_nil_iff.mp hnil)
    obtain ⟨c, cs, hcs⟩ := List.exists_cons_of_ne_nil hchars
    rw [if_neg hempty]
    split
    · simp [hcs]
    · simp [hcs]

/-- What a program is told by: an absolute name is told as a path, a name with a slash in it as it
is, and any other name in a directory of the search path. -/
theorem cases_of_resolve (h : m.resolve name = .ok (some program)) :
    ((Path.parse name).isAbsolute = true ∧ m.isFile (.parse name) = .ok true ∧
        program = (Path.parse name).text) ∨
      ((Path.parse name).isAbsolute = false ∧ m.isProgram program = true ∧
        ('/' ∈ name.toList ∧ program = name ∨
          '/' ∉ name.toList ∧
            ∃ directory ∈ m.searchDirectories, program = inDirectory directory name)) := by
  rw [resolve] at h
  cases habs : (Path.parse name).isAbsolute with
  | true =>
    rw [if_pos habs] at h
    obtain ⟨isFile, hfile, h⟩ := Ran.except_bind_eq_ok.mp h
    cases isFile with
    | false => cases h
    | true =>
      cases h
      exact .inl ⟨rfl, hfile, rfl⟩
  | false =>
    have hsearch : m.search? name = some program := by
      simpa [habs, pure, Except.pure] using h
    refine .inr ⟨rfl, ?_⟩
    rw [search?] at hsearch
    by_cases hslash : '/' ∈ name.toList
    · have hname : (if m.isProgram name then some name else none) = some program := by
        simpa [hslash] using hsearch
      split at hname
      · next hprogram =>
        cases hname
        exact ⟨hprogram, .inl ⟨hslash, rfl⟩⟩
      · cases hname
    · have hfind : (m.searchDirectories.map (inDirectory · name)).find? m.isProgram =
          some program := by
        simpa [hslash] using hsearch
      obtain ⟨directory, hdirectory, rfl⟩ := List.mem_map.mp (List.mem_of_find?_eq_some hfind)
      exact ⟨List.find?_some hfind, .inr ⟨hslash, directory, hdirectory, rfl⟩⟩

/-- The text that a program is found under is absolute exactly if its name is, or if the name has no
slash and the program was found in an absolute directory of the search path. -/
theorem isAbsolute_of_resolve (h : m.resolve name = .ok (some program)) :
    (Path.parse program).isAbsolute = true ↔ (Path.parse name).isAbsolute = true ∨
      '/' ∉ name.toList ∧ ∃ directory ∈ m.searchDirectories,
        (Path.parse directory).isAbsolute = true ∧ program = inDirectory directory name := by
  rcases cases_of_resolve h with
    ⟨habs, -, rfl⟩ | ⟨hrel, -, ⟨hslash, rfl⟩ | ⟨hslash, d, hd, rfl⟩⟩
  · rw [Path.parse_text habs]
    simp [habs]
  · simp [hrel, hslash]
  · rw [isAbsolute_inDirectory_iff hslash]
    constructor
    · intro habs
      exact .inr ⟨hslash, d, hd, habs, rfl⟩
    · rintro (habs | ⟨-, e, -, habs, heq⟩)
      · rw [hrel] at habs
        cases habs
      · rw [← isAbsolute_inDirectory_iff hslash, heq]
        exact (isAbsolute_inDirectory_iff hslash).mpr habs

/-! ### The file of a program -/

/-- A text leads to a place that holds a file. -/
def LeadsToFile (m : Machine) (text : String) (place : Place) : Prop :=
  m.locateText? text = some place ∧ ∃ bytes, m.entry? place = some (.file bytes)

theorem isSome_of_locateText? {place : Place} (h : m.locateText? text = some place) :
    (m.entry? place).isSome = true := by
  rw [locateText?, follow] at h
  split at h
  · cases h
  · split at h
    · next hfollow =>
      cases h
      split at hfollow
      · cases hfollow
      · exact isSome_end_of_walk hfollow
    · cases h

theorem exists_leadsToFile_of_isProgram (h : m.isProgram text = true) :
    ∃ place, m.LeadsToFile text place := by
  unfold isProgram at h
  split at h
  · next place hplace =>
    refine ⟨place, hplace, ?_⟩
    obtain ⟨entry, hentry⟩ := Option.isSome_iff_exists.mp (isSome_of_locateText? hplace)
    cases entry with
    | file bytes => exact ⟨bytes, hentry⟩
    | directory => simp [hentry] at h
  · cases h

theorem exists_leadsToFile_of_isFile {p : Path} (habs : p.isAbsolute = true)
    (h : m.isFile p = .ok true) : ∃ place, m.LeadsToFile p.text place := by
  obtain ⟨place, hplace, bytes, hbytes⟩ := isFile_eq_ok_true_iff.mp h
  refine ⟨place, locateText?_text habs ?_ hplace, bytes, hbytes⟩
  -- without names the path leads to the root, which is a directory
  intro hnames
  obtain ⟨-, hwalk⟩ := (locate_eq_some_iff habs).mp hplace
  rw [hnames] at hwalk
  obtain ⟨-, rfl⟩ := walk_nil_eq_ok_iff.mp hwalk
  cases hbytes

/-- The text that a program is found under leads to a file. -/
theorem exists_leadsToFile_of_resolve (h : m.resolve name = .ok (some program)) :
    ∃ place, m.LeadsToFile program place := by
  rcases cases_of_resolve h with ⟨habs, hfile, rfl⟩ | ⟨-, hprogram, -⟩
  · exact exists_leadsToFile_of_isFile habs hfile
  · exact exists_leadsToFile_of_isProgram hprogram

/-! ### The working directory -/

/-- The machine as a process sees it that is started in some directory. -/
def movedTo (m : Machine) (cwd : Place) (h : ∀ name ∈ cwd, isPathName name = true) : Machine :=
  { m with cwd := cwd, isPathName_of_mem_cwd := h }

/-- An absolute text leads to the same file for a process that is started in another directory. -/
theorem LeadsToFile.movedTo {place : Place} (h : m.LeadsToFile text place)
    (habs : (Path.parse text).isAbsolute = true) (cwd : Place)
    (hcwd : ∀ name ∈ cwd, isPathName name = true) :
    (m.movedTo cwd hcwd).LeadsToFile text place := by
  have hsteps (m : Machine) : m.stepsTo (.of text.toList) = [] := stepsTo_of_isAbsolute habs
  have hwalk (start : Place) (steps : List String) :
      (m.movedTo cwd hcwd).walk start steps = m.walk start steps := by
    apply walk_congr
    · rfl
    · rfl
  have hsame : (m.movedTo cwd hcwd).locateText? text = m.locateText? text := by
    simp only [locateText?, follow, hsteps, hwalk]
  exact ⟨hsame.trans h.1, h.2⟩

end LintBridge.Machine
