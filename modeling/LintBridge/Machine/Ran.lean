import LintBridge.Machine.Basic
import LintBridge.Note
import LintBridge.Report.Problem

/-!
What a piece of work leaves behind: its result, the programs it started, the publications that the
host received and the notes it wrote, each in order. Work joins up in a monad; an error ends it and
keeps what came before.
-/

namespace LintBridge

instance decidableEqExcept {ε α : Type} [DecidableEq ε] [DecidableEq α] :
    DecidableEq (Except ε α)
  | .ok a, .ok b => decidable_of_iff (a = b) ⟨congrArg _, Except.ok.inj⟩
  | .error e, .error f => decidable_of_iff (e = f) ⟨congrArg _, Except.error.inj⟩
  | .ok _, .error _ => isFalse nofun
  | .error _, .ok _ => isFalse nofun

/-- A program that was started, with its working directory and its timeout, if it had any. -/
structure Launch where
  arguments : List String
  cwd : Option String
  timeout : Option Decimal.Binary64
  discardInput : Bool
deriving DecidableEq, Repr

/-- Work that is done: its result, what it started, what it published and what it noted. -/
structure Ran (ε α : Type) where
  result : Except ε α
  launches : List Launch
  published : List Publication
  notes : List Note

namespace Ran

variable {ε ε' α β : Type}

/-- Work that starts, publishes and writes nothing. -/
def of (result : Except ε α) : Ran ε α := ⟨result, [], [], []⟩

/-- Work that goes on with a result. -/
def andThen (r : Ran ε α) (next : α → Ran ε β) : Ran ε β :=
  match r.result with
  | .ok a =>
      let s := next a
      ⟨s.result, r.launches ++ s.launches, r.published ++ s.published, r.notes ++ s.notes⟩
  | .error e => ⟨.error e, r.launches, r.published, r.notes⟩

instance : Monad (Ran ε) where
  pure a := of (.ok a)
  bind := andThen

/-- Work that fails. -/
def fail (e : ε) : Ran ε α := of (.error e)

/-- Writes a note. -/
def note (n : Note) : Ran ε Unit := ⟨.ok (), [], [], [n]⟩

/-- Starts a program. -/
def launch (l : Launch) : Ran ε Unit := ⟨.ok (), [l], [], []⟩

/-- The host receives a publication. -/
def publish (p : Publication) : Ran ε Unit := ⟨.ok (), [], [p], []⟩

/-- Work whose error is told in another form. -/
def mapError (f : ε → ε') (r : Ran ε α) : Ran ε' α :=
  ⟨r.result.mapError f, r.launches, r.published, r.notes⟩

/-- Work that cannot fail, since its result says how it ended. -/
def attempt (r : Ran ε α) : Ran ε' (Except ε α) :=
  ⟨.ok r.result, r.launches, r.published, r.notes⟩

@[simp] theorem result_of (x : Except ε α) : (of x).result = x := rfl
@[simp] theorem launches_of (x : Except ε α) : (of x).launches = [] := rfl
@[simp] theorem published_of (x : Except ε α) : (of x).published = [] := rfl
@[simp] theorem notes_of (x : Except ε α) : (of x).notes = [] := rfl
@[simp] theorem pure_eq (a : α) : (pure a : Ran ε α) = of (.ok a) := rfl
@[simp] theorem bind_eq (r : Ran ε α) (next : α → Ran ε β) : (r >>= next) = r.andThen next := rfl

theorem andThen_ok {r : Ran ε α} {next : α → Ran ε β} {a : α} (h : r.result = .ok a) :
    r.andThen next =
      ⟨(next a).result, r.launches ++ (next a).launches, r.published ++ (next a).published,
        r.notes ++ (next a).notes⟩ := by
  simp [andThen, h]

theorem andThen_error {r : Ran ε α} {next : α → Ran ε β} {e : ε} (h : r.result = .error e) :
    r.andThen next = ⟨.error e, r.launches, r.published, r.notes⟩ := by
  simp [andThen, h]

end Ran
end LintBridge
