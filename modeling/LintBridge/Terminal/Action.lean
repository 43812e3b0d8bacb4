import LintBridge.Expression.Value
import LintBridge.Text.Letter
import LintBridge.Text.Quoted

/-!
Actions of tags: a name and arguments between round brackets, or a bare argument.

Nothing is done with an action here, but its arguments are read, and text that spells no value is
refused with the reason.
-/

namespace LintBridge.Terminal

/-- Why an action cannot be read: what is wrong with its arguments. -/
structure ActionFault where
  action : List Char
  arguments : List Char
  fault : Expression.TextFault
deriving DecidableEq, Repr

/-- The arguments are told if they are no expression. -/
def ActionFault.message (f : ActionFault) : String :=
  let shown (cs : List Char) : String := String.ofList (Text.quote cs)
  let place :=
    match f.fault with
    | .expression _ => shown f.arguments ++ " in " ++ shown f.action
    | _ => shown f.action
  "error parsing " ++ place ++ "; " ++ f.fault.message

/-- The arguments of an action: the brackets behind its name and what stands between them, on one
line, or empty brackets behind a bare name. An action that does not start with a name is all
argument. -/
def argumentsOf (action : List Char) : List Char :=
  let rest := action.dropWhile fun c => Text.isWordCharacter c || c == '.'
  if rest = [] then ['(', ')']
  else if rest.head? = some '(' ∧ rest.getLast? = some ')' ∧ '\n' ∉ rest then rest
  else action

/-- Reads the arguments of an action. -/
def checkAction (action : List Char) : Except ActionFault Unit :=
  let arguments := argumentsOf (Text.trim action)
  match Expression.valueOfText arguments with
  | .ok _ => .ok ()
  | .error fault => .error ⟨action, arguments, fault⟩

end LintBridge.Terminal
