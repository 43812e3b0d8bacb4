/-!
Checking a value part by part.

A check gives the value in its final form, or all that is wrong with it: each mismatch names the
place where it lies, by the names of fields and the indices of items on the way to it, and the fault
found there. Checks of the parts join into a check of the whole, which reports the mismatches of the
parts in their order.
-/

namespace LintBridge

/-- One step on the way to a part of a value. -/
inductive Step where
  | field (name : String)
  | item (index : Nat)
deriving DecidableEq, Repr

def Step.text : Step → String
  | .field name => name
  | .item index => toString index

/-- A fault at a place of a value. -/
structure Mismatch (Fault : Type) where
  place : List Step
  fault : Fault
deriving DecidableEq, Repr

/-- The place by its steps with points between them; the whole value is at the empty place. -/
def Mismatch.placeText {Fault : Type} (m : Mismatch Fault) : String :=
  String.intercalate "." (m.place.map Step.text)

/-- A checked value, or the mismatches that were found, of which there is at least one. -/
abbrev Checked (Fault α : Type) := Except (List (Mismatch Fault)) α

namespace Checked

variable {Fault α β : Type}

/-- The fault lies in the value itself. -/
def refuse (fault : Fault) : Checked Fault α :=
  .error [⟨[], fault⟩]

/-- The value is a part of another one, one step away from it. -/
def under (step : Step) : Checked Fault α → Checked Fault α
  | .ok a => .ok a
  | .error ms => .error (ms.map fun m => { m with place := step :: m.place })

/-- Both values, or the mismatches of both. -/
def both : Checked Fault α → Checked Fault β → Checked Fault (α × β)
  | .ok a, .ok b => .ok (a, b)
  | .error ms, .ok _ => .error ms
  | .ok _, .error ns => .error ns
  | .error ms, .error ns => .error (ms ++ ns)

/-- The value in another form. -/
def map (f : α → β) : Checked Fault α → Checked Fault β
  | .ok a => .ok (f a)
  | .error ms => .error ms

/-- A check that goes on with the checked value. -/
def andThen (c : Checked Fault α) (next : α → Checked Fault β) : Checked Fault β :=
  match c with
  | .ok a => next a
  | .error ms => .error ms

/-- Each item of a list, the first one at index `start`. -/
def itemsFrom (check : α → Checked Fault β) (start : Nat) : List α → Checked Fault (List β)
  | [] => .ok []
  | a :: as =>
      (both ((check a).under (.item start)) (itemsFrom check (start + 1) as)).map
        fun (b, bs) => b :: bs

/-- Each item of a list. -/
def items (check : α → Checked Fault β) (as : List α) : Checked Fault (List β) :=
  itemsFrom check 0 as

theorem both_eq_ok {c : Checked Fault α} {d : Checked Fault β} {a : α} {b : β} :
    both c d = .ok (a, b) ↔ c = .ok a ∧ d = .ok b := by
  cases c <;> cases d <;> simp [both]

theorem map_eq_ok {f : α → β} {c : Checked Fault α} {b : β} :
    c.map f = .ok b ↔ ∃ a, c = .ok a ∧ f a = b := by
  cases c <;> simp [map]

theorem under_eq_ok {step : Step} {c : Checked Fault α} {a : α} :
    c.under step = .ok a ↔ c = .ok a := by
  cases c <;> simp [under]

theorem andThen_eq_ok {c : Checked Fault α} {next : α → Checked Fault β} {b : β} :
    c.andThen next = .ok b ↔ ∃ a, c = .ok a ∧ next a = .ok b := by
  cases c <;> simp [andThen]

end Checked
end LintBridge
