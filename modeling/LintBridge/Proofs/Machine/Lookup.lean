import LintBridge.Machine.Program

/-!
Lookups step by step, and those that are denied.

A lookup takes its first step from a directory that may be searched, and the others from where that
leads (`Machine.walk_cons_eq_ok_iff`). It is denied exactly if it comes to a directory that may not
be searched with a step still to take (`Machine.walk_eq_denied_iff`). Every question about a path
asks for such a lookup, and this is the only error that it can have; the path that is told is the
one that was asked for.
-/

namespace LintBridge.Machine

variable {m : Machine} {p : Path} {e : AccessError}

/-- The place that a step leads to from a directory. -/
def stepFrom (place : Place) (step : String) : Place :=
  if step = "" ∨ step = "." then place
  else if step = ".." then place.dropLast
  else place ++ [step]

theorem walk_cons (place : Place) (step : String) (rest : List String) :
    m.walk place (step :: rest) =
      if m.entry? place ≠ some .directory then .error .absent
      else if m.sealed.contains place then .error .denied
      else m.walk (stepFrom place step) rest := by
  rw [walk, stepFrom]
  congr 2
  split
  · rfl
  · split <;> rfl

/-- A lookup depends on what stands at the places, and on what may be searched, and on nothing else
of the machine. -/
theorem walk_congr {m' : Machine} (hentries : m'.entries = m.entries)
    (hsealed : m'.sealed = m.sealed) {place : Place} {steps : List String} :
    m'.walk place steps = m.walk place steps := by
  have hentry : ∀ place, m'.entry? place = m.entry? place := by
    intro place
    unfold entry?
    rw [hentries]
  induction steps generalizing place with
  | nil => rw [walk, walk, hentry]
  | cons step rest ih => rw [walk_cons, walk_cons, hentry, hsealed, ih]

theorem walk_nil_eq_ok_iff {place reached : Place} :
    m.walk place [] = .ok reached ↔ (m.entry? place).isSome = true ∧ place = reached := by
  rw [walk]
  split <;> simp_all

theorem walk_cons_eq_ok_iff {place reached : Place} {step : String} {rest : List String} :
    m.walk place (step :: rest) = .ok reached ↔ m.entry? place = some .directory ∧
      place ∉ m.sealed ∧ m.walk (stepFrom place step) rest = .ok reached := by
  rw [walk_cons]
  by_cases hdir : m.entry? place = some .directory
  · by_cases hsealed : place ∈ m.sealed
    · simp [hdir, hsealed]
    · simp [hdir, hsealed]
  · simp [hdir]

/-- A lookup is denied exactly if some of its steps lead to a directory that may not be searched,
and there are more. -/
theorem walk_eq_denied_iff {place : Place} {steps : List String} :
    m.walk place steps = .error .denied ↔
      ∃ front step back reached, steps = front ++ step :: back ∧
        m.walk place front = .ok reached ∧ m.entry? reached = some .directory ∧
        reached ∈ m.sealed := by
  induction steps generalizing place with
  | nil =>
    rw [walk]
    split <;> simp
  | cons step rest ih =>
    -- the first step decides, or the steps behind it do
    have hsplit : (∃ front next back reached, step :: rest = front ++ next :: back ∧
        m.walk place front = .ok reached ∧ m.entry? reached = some .directory ∧
        reached ∈ m.sealed) ↔
          (m.entry? place = some .directory ∧ place ∈ m.sealed) ∨
          ∃ front next back reached, rest = front ++ next :: back ∧
            m.walk place (step :: front) = .ok reached ∧ m.entry? reached = some .directory ∧
            reached ∈ m.sealed := by
      constructor
      · rintro ⟨front, next, back, reached, hsteps, hfront, hreached⟩
        cases front with
        | nil => exact .inl ((walk_nil_eq_ok_iff.mp hfront).2 ▸ hreached)
        | cons first front =>
          obtain ⟨rfl, hrest⟩ := List.cons.inj hsteps
          exact .inr ⟨front, next, back, reached, hrest, hfront, hreached⟩
      · rintro (⟨hdir, hsealed⟩ | ⟨front, next, back, reached, rfl, hfront, hreached⟩)
        · exact ⟨[], step, rest, place, rfl, walk_nil_eq_ok_iff.mpr ⟨by rw [hdir]; rfl, rfl⟩, hdir,
            hsealed⟩
        · exact ⟨step :: front, next, back, reached, rfl, hfront, hreached⟩
    rw [hsplit]
    by_cases hdir : m.entry? place = some .directory
    · by_cases hsealed : place ∈ m.sealed
      · simp [walk_cons, hdir, hsealed]
      · simp [walk_cons, hdir, hsealed, ih]
    · simp [walk_cons, hdir]

/-- A directory on the way to a path may not be searched. -/
def Barred (m : Machine) (p : Path) : Prop :=
  (∀ name ∈ p.names, isFileName name = true) ∧
    ∃ front step back reached, m.stepsTo p.anchor ++ p.names = front ++ step :: back ∧
      m.walk [] front = .ok reached ∧ m.entry? reached = some .directory ∧ reached ∈ m.sealed

/-! ### Questions about a path -/

theorem stat_eq_error_iff : m.stat p = .error e ↔ m.Barred p ∧ e = .denied p.text := by
  have hdenied : m.follow p.anchor p.names = .error .denied ↔ m.Barred p := by
    rw [follow, Barred, ← walk_eq_denied_iff, ← List.all_eq_true]
    cases p.names.all isFileName <;> simp
  rw [stat, locate, ← hdenied]
  cases hfollow : m.follow p.anchor p.names with
  | ok place => simp
  | error miss => cases miss <;> simp [eq_comm]

theorem pathExists_eq_error_iff : m.pathExists p = .error e ↔ m.Barred p ∧ e = .denied p.text := by
  rw [← stat_eq_error_iff, pathExists]
  cases m.stat p <;> simp [bind, Except.bind, pure, Except.pure]

theorem isDirectory_eq_error_iff :
    m.isDirectory p = .error e ↔ m.Barred p ∧ e = .denied p.text := by
  rw [← stat_eq_error_iff, isDirectory]
  cases m.stat p <;> simp [bind, Except.bind, pure, Except.pure]

theorem isFile_eq_error_iff : m.isFile p = .error e ↔ m.Barred p ∧ e = .denied p.text := by
  rw [← stat_eq_error_iff, isFile]
  rcases m.stat p with _ | _ | _ | _ <;> simp [bind, Except.bind, pure, Except.pure]

/-- A path leads to a file exactly if the place that it leads to holds one. -/
theorem isFile_eq_ok_true_iff : m.isFile p = .ok true ↔
    ∃ place, m.locate p = .ok (some place) ∧ ∃ bytes, m.entry? place = some (.file bytes) := by
  rw [isFile, stat]
  cases m.locate p with
  | error e => simp [bind, Except.bind]
  | ok found =>
    cases found with
    | none => simp [bind, Except.bind, pure, Except.pure]
    | some place =>
      rcases hentry : m.entry? place with _ | _ | _ <;>
        simp [hentry, bind, Except.bind, pure, Except.pure]

/-- Looking for a program is denied only if an absolute path names it. -/
theorem resolve_eq_error_iff {name : String} :
    m.resolve name = .error e ↔ (Path.parse name).isAbsolute = true ∧
      m.Barred (.parse name) ∧ e = .denied (Path.parse name).text := by
  rw [← isFile_eq_error_iff, resolve]
  by_cases habs : (Path.parse name).isAbsolute = true
  · cases m.isFile (.parse name) <;> simp [habs, bind, Except.bind, pure, Except.pure]
  · simp [habs, pure, Except.pure]

end LintBridge.Machine
