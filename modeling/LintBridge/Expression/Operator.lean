import LintBridge.Expression.Parser

/-!
Expressions from conditions down to attributes and calls, and expressions that are named or stand in
a row.

Operators that bind more tightly are read by rules that stand below; a chain of operators of one
strength is read from left to right.
-/

namespace LintBridge.Expression.Grammar

variable (self : Rules)

/-- The names whose calls were once written without brackets. -/
def isLegacyCall (name : List Char) : Bool :=
  ["print", "exec"].any (·.toList = name)

/-- An expression that is an operation, whatever its parts. -/
abbrev operation : Expression := .other .operation

/-! ### Rows of expressions -/

/-- Expressions in a row, a tuple if there is more than one or a comma behind. -/
def row (item : Parser Expression) : Parser Expression := do
  let first ← item
  let more ← Parser.many (do Parser.mark ","; item)
  return ofList first more (← Parser.isMark ",")

/-- Expressions in a row, some of them perhaps unpacked. -/
def starExpressions : Parser Expression :=
  row (self .starExpression)

/-- An expression, or one that is unpacked. -/
def starExpression : Parser Expression :=
  .firstOf
    [ do Parser.mark "*"; return .starred (← self .bitOr),
      self .expression ]

/-! ### Named expressions -/

/-- A name and the expression that it is given to. -/
def assignment : Parser Expression := do
  let _ ← Parser.name
  Parser.mark ":="
  let _ ← self .expression
  return .other .named

/-- An expression that is given to no name. -/
def unassigned : Parser Expression := do
  let e ← self .expression
  Parser.notAhead (Parser.mark ":=")
  return e

/-- Neither of the signs that give a value to a name. -/
def noAssignment : Parser Unit :=
  Parser.notAhead (.firstOf [Parser.mark "=", Parser.mark ":="])

/-- The faults of expressions that are given to what is no name, or with an equals sign. -/
def wrongNamedExpression (untargetable : Parser Expression) : Parser Expression :=
  .firstOf
    [ do
        let e ← self .expression
        Parser.mark ":="
        let _ ← self .expression
        Parser.refuse (.namedTarget e.describe),
      do
        let _ ← Parser.name
        Parser.mark "="
        let _ ← self .bitOr
        noAssignment
        Parser.refuse .maybeEquals,
      do
        Parser.notAhead untargetable
        let e ← self .bitOr
        Parser.mark "="
        let _ ← self .bitOr
        noAssignment
        Parser.refuse (.assignedValue e.describe) ]

/-- An expression that may be given to a name. -/
def namedExpression : Parser Expression :=
  .firstOf
    [ assignment self,
      Parser.careful (self .wrongNamedExpression),
      unassigned self ]

/-- A named expression, or one that is unpacked. -/
def starNamedExpression : Parser Expression :=
  .firstOf
    [ do Parser.mark "*"; return .starred (← self .bitOr),
      self .namedExpression ]

/-! ### Conditions and functions -/

/-- A value, a condition and the value otherwise. -/
def conditional : Parser Expression := do
  let _ ← self .disjunction
  Parser.keyword "if"
  let _ ← self .disjunction
  Parser.keyword "else"
  let _ ← self .expression
  return .other .conditional

/-- A name behind which no comma is missing: one in front of a quoted text, or what a word of its
own in some places starts with. -/
def unremarkableName : Parser Unit := do
  let word ← Parser.name
  if !softKeywords.any (word.isPrefixOf ·.toList) then
    let _ ← Parser.quotation

/-- The faults of two expressions without a comma between them, and of conditions without another
value. -/
def wrongExpression (function : Parser Expression) : Parser Expression :=
  .firstOf
    [ do
        Parser.notAhead unremarkableName
        let left ← self .disjunction
        let _ ← Parser.plainly (.firstOf [conditional self, self .disjunction, function])
        match left with
        | .name word => if isLegacyCall word then Parser.close
        | _ => pure ()
        if (← Parser.previous?).all (·.depth = 0) then Parser.close
        Parser.refuse .forgottenComma,
      do
        let _ ← self .disjunction
        Parser.keyword "if"
        let _ ← self .disjunction
        Parser.notAhead (.firstOf [Parser.keyword "else", Parser.mark ":"])
        Parser.refuse .missingElse ]

/-- The fault of a call without brackets. -/
def wrongCall : Parser Expression := do
  let word ← Parser.name
  Parser.notAhead (Parser.mark "(")
  let _ ← starExpressions self
  if isLegacyCall word then Parser.refuse (.missingCallBrackets (String.ofList word))
  else Parser.mismatch

/-- An expression, where `function` reads one without a name. -/
def expression (function : Parser Expression) : Parser Expression :=
  .firstOf
    [ Parser.careful (wrongExpression self function),
      Parser.careful (wrongCall self),
      conditional self,
      self .disjunction,
      function ]

/-! ### Operations -/

/-- Operands with a connective between them. -/
def connected (operand : Parser Expression) (connective : Parser Unit) : Parser Expression := do
  let first ← operand
  let more ← Parser.many (do connective; operand)
  return if more.isEmpty then first else operation

/-- A negation or a comparison. -/
def inversion (comparison : Parser Expression) : Parser Expression :=
  .firstOf
    [ do
        Parser.keyword "not"
        let _ ← self .inversion
        return operation,
      comparison ]

/-- A sign of comparison; tells whether it asks for being contained. -/
def comparisonSign : Parser Bool :=
  .firstOf
    [ do Parser.mark "=="; return false,
      do Parser.mark "!="; return false,
      do Parser.mark "<="; return false,
      do Parser.mark "<"; return false,
      do Parser.mark ">="; return false,
      do Parser.mark ">"; return false,
      do Parser.keyword "not"; Parser.keyword "in"; return false,
      do Parser.keyword "in"; return true,
      do Parser.keyword "is"; Parser.keyword "not"; return false,
      do Parser.keyword "is"; return false ]

/-- A sign of comparison and its right side. -/
def comparedTo : Parser Bool := do
  let contained ← comparisonSign
  let _ ← self .bitOr
  return contained

/-- A comparison. A sign that could be two is tried as the longer one first. -/
def comparison : Parser Expression := do
  let left ← self .bitOr
  match ← Parser.many (comparedTo self) with
  | [] => return left
  | contained :: _ => return .comparison left contained

/-- Operands of a rule with marks between them. -/
def marked (operand : Rule) (marks : List String) : Parser Expression :=
  connected (self operand) (.firstOf (marks.map Parser.mark))

/-- A sum or a difference. -/
def sum : Parser Expression := do
  let first ← self .term
  let more ← Parser.many do
    .firstOf [Parser.mark "+", Parser.mark "-"]
    self .term
  return more.foldl .sum first

/-- An operand with a sign in front. -/
def factor : Parser Expression :=
  .firstOf
    [ do Parser.mark "+"; return .signed false (← self .factor),
      do Parser.mark "-"; return .signed true (← self .factor),
      do
        Parser.mark "~"
        let _ ← self .factor
        return operation,
      do
        let _ ← self .awaited
        Parser.mark "**"
        let _ ← self .factor
        return operation,
      self .awaited ]

/-- An operand that may be waited for. -/
def awaited : Parser Expression :=
  .firstOf
    [ do
        Parser.keyword "await"
        let _ ← self .primary
        return .other .awaiting,
      self .primary ]

/-! ### Attributes and calls -/

/-- An attribute. -/
def member : Parser Expression := do
  Parser.mark "."
  let _ ← Parser.name
  return .attribute

/-- Arguments in brackets. -/
def bracketed (arguments : Parser Unit) (function : Expression) : Parser Expression := do
  Parser.mark "("
  let given ← Parser.attempt arguments
  Parser.mark ")"
  return .call function given.isNone

/-- What may stand behind an operand: an attribute or a call. -/
def trailer (generator : Parser Expression) (arguments : Parser Unit) (e : Expression) :
    Parser Expression :=
  .firstOf
    [ member,
      do
        let _ ← generator
        return .call e false,
      bracketed arguments e ]

/-- An operand with all that stands behind it, `most` times at most. -/
def trailed (next : Expression → Parser Expression) : (most : Nat) → Expression → Parser Expression
  | 0, e => return e
  | most + 1, e => do
      match ← Parser.attempt (next e) with
      | some e => trailed next most e
      | none => return e

/-- An operand with the attributes and calls behind it. -/
def primary (generator : Parser Expression) (arguments : Parser Unit) : Parser Expression := do
  let e ← self .atom
  trailed (trailer generator arguments) (← read).tokens.size e

end LintBridge.Expression.Grammar
