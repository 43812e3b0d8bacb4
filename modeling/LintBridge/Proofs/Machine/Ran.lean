import LintBridge.Machine.Ran

/-!
What work leaves behind, along the way it is put together.

The result of joined work is the result of the parts in the order of their errors. Work that is
quiet starts no program and publishes nothing; it stays so if quiet work is joined to it, and joined
to other work it adds nothing to what that has started and published.
-/

namespace LintBridge.Ran

variable {ε ε' α β : Type}

theorem except_bind_eq_ok {x : Except ε α} {next : α → Except ε β} {b : β} :
    x.bind next = .ok b ↔ ∃ a, x = .ok a ∧ next a = .ok b := by
  cases x <;> simp [Except.bind]

theorem except_bind_eq_error {x : Except ε α} {next : α → Except ε β} {e : ε} :
    x.bind next = .error e ↔ x = .error e ∨ ∃ a, x = .ok a ∧ next a = .error e := by
  cases x <;> simp [Except.bind]

theorem except_map_eq_ok {x : Except ε α} {f : α → β} {b : β} :
    x.map f = .ok b ↔ ∃ a, x = .ok a ∧ f a = b := by
  cases x <;> simp [Except.map]

theorem except_map_eq_error {x : Except ε α} {f : α → β} {e : ε} :
    x.map f = .error e ↔ x = .error e := by
  cases x <;> simp [Except.map]

@[simp]
theorem except_mapError_ok (f : ε → ε') (a : α) :
    (Except.ok a : Except ε α).mapError f = .ok a :=
  rfl

@[simp]
theorem except_mapError_error (f : ε → ε') (e : ε) :
    (Except.error e : Except ε α).mapError f = .error (f e) :=
  rfl

theorem except_mapError_eq_ok {x : Except ε α} {f : ε → ε'} {a : α} :
    x.mapError f = .ok a ↔ x = .ok a := by
  cases x <;> simp

theorem except_mapError_eq_error {x : Except ε α} {f : ε → ε'} {e' : ε'} :
    x.mapError f = .error e' ↔ ∃ e, x = .error e ∧ f e = e' := by
  cases x <;> simp

theorem result_andThen (r : Ran ε α) (next : α → Ran ε β) :
    (r.andThen next).result = r.result.bind fun a => (next a).result := by
  cases h : r.result with
  | ok a => rw [andThen_ok h]; rfl
  | error e => rw [andThen_error h]; rfl

theorem result_andThen_eq_ok {r : Ran ε α} {next : α → Ran ε β} {b : β} :
    (r.andThen next).result = .ok b ↔ ∃ a, r.result = .ok a ∧ (next a).result = .ok b := by
  rw [result_andThen, except_bind_eq_ok]

theorem of_ok_andThen (a : α) (next : α → Ran ε β) : (of (.ok a)).andThen next = next a := rfl

/-- Work that starts no program and publishes nothing. -/
structure Quiet (r : Ran ε α) : Prop where
  launches : r.launches = []
  published : r.published = []

theorem quiet_of (x : Except ε α) : Quiet (of x) := ⟨rfl, rfl⟩

theorem quiet_note (n : Note) : Quiet (note n : Ran ε Unit) := ⟨rfl, rfl⟩

theorem Quiet.mapError {r : Ran ε α} (h : Quiet r) (f : ε → ε') : Quiet (r.mapError f) :=
  ⟨h.launches, h.published⟩

theorem launches_andThen (r : Ran ε α) {next : α → Ran ε β} (h : ∀ a, (next a).launches = []) :
    (r.andThen next).launches = r.launches := by
  cases hr : r.result with
  | ok a => rw [andThen_ok hr, h a, List.append_nil]
  | error e => rw [andThen_error hr]

theorem published_andThen (r : Ran ε α) {next : α → Ran ε β} (h : ∀ a, (next a).published = []) :
    (r.andThen next).published = r.published := by
  cases hr : r.result with
  | ok a => rw [andThen_ok hr, h a, List.append_nil]
  | error e => rw [andThen_error hr]

theorem Quiet.andThen {r : Ran ε α} {next : α → Ran ε β} (hr : Quiet r)
    (h : ∀ a, Quiet (next a)) : Quiet (r.andThen next) where
  launches := by rw [launches_andThen r fun a => (h a).launches, hr.launches]
  published := by rw [published_andThen r fun a => (h a).published, hr.published]

end LintBridge.Ran
