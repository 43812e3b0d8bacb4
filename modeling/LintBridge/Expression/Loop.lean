import LintBridge.Expression.Operator

/-!
Loops in comprehensions: targets, what they range over, and conditions.

A target is a name, an attribute, or several of them; at most one mark of unpacking stands in front
of each.
-/

namespace LintBridge.Expression.Grammar

variable (self : Rules)

/-! ### Targets -/

/-- What goes on behind an operand. -/
def trailerStart : Parser Unit :=
  .firstOf [Parser.mark "(", Parser.mark "."]

/-- A parser behind which an operand goes on. -/
def followed (p : Parser Expression) : Parser Expression := do
  let e ← p
  Parser.ahead trailerStart
  return e

/-- An operand that goes on behind. -/
def targetPrimary (generator : Parser Expression) (arguments : Parser Unit) :
    Parser Expression := do
  let e ← followed (self .atom)
  let next (e : Expression) : Parser Expression :=
    .firstOf
      [ followed member,
        followed do
          let _ ← generator
          return .call e false,
        followed (bracketed arguments e) ]
  trailed next (← read).tokens.size e

/-- A target that is an attribute, a name or stands in brackets. -/
def targetAtom : Parser Expression :=
  .firstOf
    [ do
        let _ ← self .targetPrimary
        let e ← member
        Parser.notAhead trailerStart
        return e,
      do return .name (← Parser.name),
      do
        Parser.mark "("
        let e ← self .targetAtom
        Parser.mark ")"
        return e,
      do
        Parser.mark "("
        let items ← Parser.attempt do
          let first ← self .starTarget
          let more ← Parser.many (do Parser.mark ","; self .starTarget)
          let comma ← Parser.isMark ","
          if more.isEmpty && !comma then Parser.mismatch
          return first :: more
        Parser.mark ")"
        return .tuple (items.getD []) ]

/-- A target that may be unpacked. -/
def starTarget : Parser Expression :=
  .firstOf
    [ do
        Parser.mark "*"
        Parser.notAhead (Parser.mark "*")
        return .starred (← self .starTarget),
      self .targetAtom ]

/-! ### Clauses -/

/-- What a loop ranges over, and the conditions on it. -/
def loopRange : Parser Unit := do
  let _ ← self .disjunction
  let _ ← Parser.many do
    Parser.keyword "if"
    self .disjunction

/-- The target of a loop up to its range. -/
def loopTarget : Parser Unit := do
  Parser.keyword "for"
  let _ ← row (self .starTarget)
  Parser.keyword "in"

/-- The fault of a loop over what is no target. -/
def wrongTarget : Parser Unit := do
  let _ ← Parser.attempt (Parser.keyword "async")
  Parser.keyword "for"
  let e ← starExpressions self
  match misplaced? e with
  | some part => Parser.refuse (.assignedTarget part.describe)
  | none => Parser.mismatch

/-- A loop. -/
def loop : Parser Unit :=
  .firstOf
    [ do
        Parser.keyword "async"
        loopTarget self
        Parser.committed (loopRange self),
      do
        loopTarget self
        Parser.committed (loopRange self),
      Parser.careful (wrongTarget self) ]

/-- Loops, at least one. -/
def loops : Parser Unit := do
  let _ ← Parser.several (loop self)

end LintBridge.Expression.Grammar
