import LintBridge.Proofs.Machine.Lookup
import LintBridge.Proofs.Machine.Path

/-!
Where a path leads.

There are no links among the files, so a lookup that ends somewhere ends at the place that the names
spell, two points going one up (`Machine.locate_take`), and the same holds of every path that it
comes through. How the place of a path lies to that of a directory on the way is then a question
about names: it lies in or below the directory unless two points climb above it, and otherwise in or
below the one as far above as they climb (`Machine.take_isPrefix_foldl_placeBelow`).
-/

namespace LintBridge.Machine

variable {m : Machine} {p : Path} {place reached : Place} {steps front back : List String}

/-! ### Lookups by names -/

/-- A step by the name of a path is one down, or one up by two points. -/
theorem stepFrom_eq_placeBelow {name : String} (h : isPathName name = true) :
    stepFrom place name = placeBelow place name := by
  obtain ⟨hempty, hpoint, -⟩ := isPathName_iff.mp h
  simp [stepFrom, placeBelow, hempty, hpoint]

/-- A lookup that comes to its end ends where the names lead. -/
theorem eq_foldl_of_walk (hsteps : ∀ step ∈ steps, isPathName step = true)
    (h : m.walk place steps = .ok reached) : reached = steps.foldl placeBelow place := by
  induction steps generalizing place with
  | nil => exact (walk_nil_eq_ok_iff.mp h).2.symm
  | cons step rest ih =>
    obtain ⟨hstep, hrest⟩ := List.forall_mem_cons.mp hsteps
    obtain ⟨-, -, hwalk⟩ := walk_cons_eq_ok_iff.mp h
    rw [stepFrom_eq_placeBelow hstep] at hwalk
    exact ih hrest hwalk

/-- A lookup starts at something that is there. -/
theorem isSome_start_of_walk (h : m.walk place steps = .ok reached) :
    (m.entry? place).isSome = true := by
  cases steps with
  | nil => exact (walk_nil_eq_ok_iff.mp h).1
  | cons step rest =>
    rw [(walk_cons_eq_ok_iff.mp h).1]
    rfl

/-- A lookup ends at something that is there. -/
theorem isSome_end_of_walk (h : m.walk place steps = .ok reached) :
    (m.entry? reached).isSome = true := by
  induction steps generalizing place with
  | nil =>
    obtain ⟨hthere, rfl⟩ := walk_nil_eq_ok_iff.mp h
    exact hthere
  | cons step rest ih => exact ih (walk_cons_eq_ok_iff.mp h).2.2

/-- A lookup that comes to its end has come through the whole of its way. -/
theorem exists_walk_of_append (h : m.walk place (front ++ back) = .ok reached) :
    ∃ between, m.walk place front = .ok between := by
  induction front generalizing place with
  | nil => exact ⟨place, walk_nil_eq_ok_iff.mpr ⟨isSome_start_of_walk h, rfl⟩⟩
  | cons step rest ih =>
    obtain ⟨hdir, hsealed, hwalk⟩ := walk_cons_eq_ok_iff.mp h
    obtain ⟨between, hbetween⟩ := ih hwalk
    exact ⟨between, walk_cons_eq_ok_iff.mpr ⟨hdir, hsealed, hbetween⟩⟩

/-- Steps without a name make no difference to the steps behind them. -/
theorem walk_replicate_append (count : Nat) (h : steps ≠ []) :
    m.walk place (List.replicate count "" ++ steps) = m.walk place steps := by
  have hstay (rest : List String) (hrest : rest ≠ []) :
      m.walk place ("" :: rest) = m.walk place rest := by
    obtain ⟨step, more, rfl⟩ := List.exists_cons_of_ne_nil hrest
    have hhere : stepFrom place "" = place := by simp [stepFrom]
    rw [walk_cons place "", hhere, walk_cons]
    split
    · rfl
    · split <;> rfl
  induction count with
  | zero => rfl
  | succ count ih =>
    have hne : List.replicate count "" ++ steps ≠ [] := List.append_ne_nil_of_right_ne_nil _ h
    rw [List.replicate_succ, List.cons_append, hstay _ hne, ih]

/-! ### Lookups of absolute paths -/

/-- The way to an absolute path starts at the root. -/
theorem stepsTo_of_isAbsolute (h : p.isAbsolute = true) : m.stepsTo p.anchor = [] := by
  cases ha : p.anchor with
  | here => simp [Path.isAbsolute, ha] at h
  | root => rfl
  | doubleRoot => rfl

theorem locate_eq_some_iff (h : p.isAbsolute = true) : m.locate p = .ok (some place) ↔
    (∀ name ∈ p.names, isFileName name = true) ∧ m.walk [] p.names = .ok place := by
  rw [locate, follow, stepsTo_of_isAbsolute h, List.nil_append, ← List.all_eq_true]
  cases p.names.all isFileName with
  | false => simp
  | true =>
    cases m.walk [] p.names with
    | ok place => simp
    | error miss => cases miss <;> simp

theorem exists_locate_of_pathExists (h : m.pathExists p = .ok true) :
    ∃ place, m.locate p = .ok (some place) := by
  rw [pathExists, stat] at h
  cases hlocate : m.locate p with
  | error e => simp [hlocate, bind, Except.bind] at h
  | ok found =>
    cases found with
    | some place => exact ⟨place, rfl⟩
    | none => simp [hlocate, bind, Except.bind, pure, Except.pure] at h

/-- The text of an absolute path leads to where the path leads. -/
theorem locateText?_text (habs : p.isAbsolute = true) (hne : p.names ≠ [])
    (h : m.locate p = .ok (some place)) : m.locateText? p.text = some place := by
  obtain ⟨hnames, hwalk⟩ := (locate_eq_some_iff habs).mp h
  obtain ⟨count, hsteps⟩ := Path.steps_text habs hne
  have htext : p.text ≠ "" := by
    intro hempty
    have hhead : p.text.toList.head? = some '/' := Path.head?_text habs
    simp [hempty] at hhead
  have hanchor : Anchor.of p.text.toList = p.anchor := congrArg Path.anchor (Path.parse_text habs)
  have hfiles : (List.replicate count "" ++ p.names).all isFileName = true := by
    rw [List.all_append, List.all_eq_true.mpr hnames, Bool.and_true, List.all_replicate]
    split <;> rfl
  have hway : m.stepsTo p.anchor = [] := stepsTo_of_isAbsolute habs
  have hfollow : m.follow p.anchor (List.replicate count "" ++ p.names) = .ok place := by
    rw [follow, hfiles, hway, List.nil_append, walk_replicate_append count hne]
    exact hwalk
  rw [locateText?, if_neg htext, hanchor, hsteps, hfollow]

/-- On the way to something that is there a lookup comes through the places of all the directories
above it. -/
theorem locate_take (habs : p.isAbsolute = true) (h : m.locate p = .ok (some place)) (count : Nat) :
    m.locate (p.take count) = .ok (some (placeOf (p.take count))) := by
  obtain ⟨hnames, hwalk⟩ := (locate_eq_some_iff habs).mp h
  have hsplit : p.names = p.names.take count ++ p.names.drop count :=
    (List.take_append_drop count p.names).symm
  rw [hsplit] at hwalk
  obtain ⟨between, hbetween⟩ := exists_walk_of_append hwalk
  have hplace : between = placeOf (p.take count) :=
    eq_foldl_of_walk (p.take count).isPathName_of_mem hbetween
  have hfiles : ∀ name ∈ (p.take count).names, isFileName name = true := by
    intro name hname
    exact hnames name (List.mem_of_mem_take hname)
  exact (locate_eq_some_iff (p := p.take count) habs).mpr ⟨hfiles, hplace ▸ hbetween⟩

/-! ### Climbing -/

/-- How far above their start some names climb, by more names of two points than others before. -/
def climb : List String → Nat
  | [] => 0
  | name :: rest => if name = ".." then climb rest + 1 else climb rest - 1

/-- Wherever some names lead, it is in or below the directory as far above their start as they
climb. -/
theorem take_isPrefix_foldl_placeBelow (place : Place) (names : List String) :
    place.take (place.length - climb names) <+: names.foldl placeBelow place := by
  induction names generalizing place with
  | nil => simp [climb]
  | cons name rest ih =>
    rw [List.foldl_cons]
    by_cases hname : name = ".."
    · have hup : placeBelow place name = place.take (place.length - 1) := by
        rw [placeBelow, if_pos hname, List.dropLast_eq_take]
      have hstart : (place.take (place.length - 1)).take
          ((place.take (place.length - 1)).length - climb rest) =
            place.take (place.length - climb (name :: rest)) := by
        rw [List.take_take, climb, if_pos hname, List.length_take]
        congr 1
        omega
      rw [hup, ← hstart]
      exact ih _
    · have hdown : placeBelow place name = place ++ [name] := by
        rw [placeBelow, if_neg hname]
      have hstart : place.take (place.length - climb (name :: rest)) <+:
          (place ++ [name]).take ((place ++ [name]).length - climb rest) := by
        rw [climb, if_neg hname, List.length_append, List.length_singleton]
        calc place.take (place.length - (climb rest - 1))
            = (place ++ [name]).take (place.length - (climb rest - 1)) := by
              rw [List.take_append_of_le_length (Nat.sub_le _ _)]
          _ <+: (place ++ [name]).take (place.length + 1 - climb rest) :=
              List.take_prefix_take_left (by omega)
      rw [hdown]
      exact hstart.trans (ih _)

end LintBridge.Machine
