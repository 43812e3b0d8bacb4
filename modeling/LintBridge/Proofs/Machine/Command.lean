import LintBridge.Machine.Process
import LintBridge.Proofs.Machine.Lookup

/-!
Running a command, by whether its program is found.

If the first argument stands for a program, the program is started once, with the other arguments as
they are (`Command.run_of_resolved`). If it does not, nothing is started, and the error says that it
was not found or that a directory on the way may not be searched (`Command.run_of_unresolved`).
-/

namespace LintBridge

namespace Command

variable {m : Machine} {c : Command} {name : String} {rest : List String}

/-- A command whose program is found starts it. -/
theorem run_of_resolved {program : String} (hc : c.arguments = name :: rest)
    (h : m.resolve name = .ok (some program)) :
    run m c = ⟨outcome (program :: rest) c.timeout (m.script (program :: rest)),
      [⟨program :: rest, c.cwd.map Path.text, c.timeout, c.discardInput⟩], [], []⟩ := by
  have hresolved : resolved m c.arguments = .ok (program :: rest) := by simp [resolved, hc, h]
  simp only [run, hresolved]
  rfl

/-- A command whose program is not found starts nothing. -/
theorem run_of_unresolved (hc : c.arguments = name :: rest)
    (h : ∀ program, m.resolve name ≠ .ok (some program)) :
    ∃ e, run m c = .of (.error e) ∧ (e = .notFound name ∨ ∃ path, e = .access (.denied path)) := by
  cases hr : m.resolve name with
  | error e =>
    obtain ⟨-, -, rfl⟩ := Machine.resolve_eq_error_iff.mp hr
    have hresolved : resolved m c.arguments =
        .error (.access (.denied (Path.parse name).text)) := by simp [resolved, hc, hr]
    exact ⟨_, by simp only [run, hresolved]; rfl, .inr ⟨_, rfl⟩⟩
  | ok found =>
    cases found with
    | some program => exact absurd hr (h program)
    | none =>
      have hresolved : resolved m c.arguments = .error (.notFound name) := by
        simp [resolved, hc, hr]
      exact ⟨_, by simp only [run, hresolved]; rfl, .inl rfl⟩

/-- A command starts the program that is found, and nothing if none is found. -/
theorem launches_run (hc : c.arguments = name :: rest) : (run m c).launches =
    match m.resolve name with
    | .ok (some program) => [⟨program :: rest, c.cwd.map Path.text, c.timeout, c.discardInput⟩]
    | _ => [] := by
  split
  · next program h => rw [run_of_resolved hc h]
  · next h =>
    obtain ⟨e, hrun, -⟩ := run_of_unresolved hc h
    rw [hrun]
    rfl

theorem published_run (hc : c.arguments = name :: rest) : (run m c).published = [] := by
  by_cases h : ∃ program, m.resolve name = .ok (some program)
  · obtain ⟨program, hprogram⟩ := h
    rw [run_of_resolved hc hprogram]
  · obtain ⟨e, hrun, -⟩ := run_of_unresolved hc fun program hprogram => h ⟨program, hprogram⟩
    rw [hrun]
    rfl

/-- A command that ends has ended by itself, or it was stopped and has the status that tells so. -/
theorem outcome_eq_ok {arguments : List String} {timeout : Option Decimal.Binary64}
    {script : Script} {done : Completed} (h : outcome arguments timeout script = .ok done) :
    done.status = timeoutStatus ∨
      ∃ out err, script = .finishes done.status out err ∧ done.out = outputText out := by
  cases script with
  | finishes status out err =>
    cases h
    exact .inr ⟨out, err, rfl, rfl⟩
  | stopped out err =>
    cases h
    exact .inl rfl
  | fails failure => cases h

end Command
end LintBridge
