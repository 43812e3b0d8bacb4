import LintBridge.Settings.Basic

/-!
The roster of checkers that a host has registered, in order of registration. No two checkers of a
roster have one name.

A host makes requests of its roster one after the other (`Roster.serve`). What is refused leaves the
roster as it was, and the host may go on with it.
-/

namespace LintBridge

/-- Registered checkers, in order of registration. -/
structure Roster where
  checkers : List Settings
  distinct : (checkers.map Settings.checkerName).Nodup

/-- Why a roster refuses: the name is taken, or nobody has it. -/
inductive RosterError where
  | registered (name : String)
  | unknown (name : String)
deriving DecidableEq, Repr

def RosterError.message : RosterError → String
  | .registered name => "Checker '" ++ name ++ "' is already registered"
  | .unknown name => "Unknown checker '" ++ name ++ "'"

namespace Roster

def empty : Roster := ⟨[], List.nodup_nil⟩

/-- The names of the checkers, in their order. -/
def names (r : Roster) : List String :=
  r.checkers.map Settings.checkerName

/-- How many checkers there are. -/
def size (r : Roster) : Nat :=
  r.checkers.length

/-- Whether a checker of a name is there. -/
def contains (r : Roster) (name : String) : Bool :=
  r.names.contains name

/-- The checker of a name. -/
def get (r : Roster) (name : String) : Except RosterError Settings :=
  match r.checkers.find? (·.checkerName = name) with
  | some checker => .ok checker
  | none => .error (.unknown name)

theorem nodup_append_name (r : Roster) (checker : Settings)
    (h : r.contains checker.checkerName = false) :
    ((r.checkers ++ [checker]).map Settings.checkerName).Nodup := by
  have absent : checker.checkerName ∉ r.checkers.map Settings.checkerName := by
    simpa [contains, names] using h
  rw [List.map_append, List.nodup_append]
  refine ⟨r.distinct, by simp, ?_⟩
  intro a ha b hb
  have : b = checker.checkerName := by simpa using hb
  exact fun e => absent (this ▸ e ▸ ha)

/-- Adds a checker at the end, unless one of its name is there. -/
def register (r : Roster) (checker : Settings) : Except RosterError Roster :=
  if h : r.contains checker.checkerName then .error (.registered checker.checkerName)
  else .ok ⟨r.checkers ++ [checker], r.nodup_append_name checker (by simpa using h)⟩

/-- Adds a checker, or the standard one if none is given, and tells which one it is. -/
def enrol (r : Roster) (checker : Option Settings) : Except RosterError (Settings × Roster) :=
  let checker := checker.getD .standard
  (r.register checker).map fun roster => (checker, roster)

/-! ### Requests -/

/-- What a host asks of a roster. -/
inductive Request where
  | register (checker : Settings)
  | enrol (checker : Option Settings)
  | get (name : String)
  | contains (name : String)
  | size
  | checkers
deriving DecidableEq, Repr

/-- What a roster answers to a request that it does not refuse. -/
inductive Answer where
  | done
  | checker (checker : Settings)
  | truth (found : Bool)
  | number (count : Nat)
  | list (checkers : List Settings)
deriving DecidableEq, Repr

/-- How a request ends. -/
abbrev Outcome := Except RosterError Answer

/-- Does what is asked for: how it ends, and the roster that is left. -/
def serve (r : Roster) : Request → Outcome × Roster
  | .register checker =>
      match r.register checker with
      | .ok roster => (.ok .done, roster)
      | .error e => (.error e, r)
  | .enrol checker =>
      match r.enrol checker with
      | .ok (checker, roster) => (.ok (.checker checker), roster)
      | .error e => (.error e, r)
  | .get name => ((r.get name).map .checker, r)
  | .contains name => (.ok (.truth (r.contains name)), r)
  | .size => (.ok (.number r.size), r)
  | .checkers => (.ok (.list r.checkers), r)

/-- Does what is asked for one after the other: each request with how it ended, and the roster that
is left. -/
def serveAll (r : Roster) : List Request → List (Request × Outcome) × Roster
  | [] => ([], r)
  | request :: rest =>
      let (outcome, r) := r.serve request
      let (history, r) := r.serveAll rest
      ((request, outcome) :: history, r)

end Roster
end LintBridge
