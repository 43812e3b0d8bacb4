import LintBridge.Expression.Loop

/-!
Expressions in brackets: groups, tuples, sets, dictionaries and comprehensions.
-/

namespace LintBridge.Expression.Grammar

variable (self : Rules)

/-- Named expressions in a row, some of them perhaps unpacked. -/
def items : Parser (List Expression) := do
  let found ← Parser.separated (starNamedExpression self)
  let _ ← Parser.isMark ","
  return found

/-- An unpacked expression. -/
def unpacked : Parser Expression := do
  Parser.mark "*"
  return .starred (← self .expression)

/-! ### Groups and tuples -/

/-- What a function hands out before it ends. -/
def yielding : Parser Expression :=
  .firstOf
    [ do
        Parser.keyword "yield"
        Parser.keyword "from"
        let _ ← self .expression
        return .other .yielding,
      do
        Parser.keyword "yield"
        let _ ← Parser.attempt (starExpressions self)
        return .other .yielding ]

/-- The faults of expressions that are unpacked where only one can stand. -/
def wrongGroup : Parser Expression :=
  .firstOf
    [ do
        Parser.mark "("
        let _ ← unpacked self
        Parser.mark ")"
        Parser.refuse .starredGroup,
      do
        Parser.mark "("
        Parser.mark "**"
        let _ ← self .expression
        Parser.mark ")"
        Parser.refuse .doubleStarredGroup ]

/-- An expression in brackets. -/
def group : Parser Expression :=
  .firstOf
    [ do
        Parser.mark "("
        let e ← .firstOf [yielding self, self .namedExpression]
        Parser.mark ")"
        return e,
      Parser.careful (wrongGroup self) ]

/-- A tuple, which has a comma unless it is empty. -/
def tuple : Parser Expression := do
  Parser.mark "("
  let found ← Parser.attempt do
    let first ← starNamedExpression self
    Parser.mark ","
    return first :: (← Parser.attempt (items self)).getD []
  Parser.mark ")"
  return .tuple (found.getD [])

/-! ### Comprehensions -/

/-- An opening curly bracket. -/
def openCurly : Parser Unit :=
  Parser.mark "\x7b"

/-- A closing curly bracket. -/
def closeCurly : Parser Unit :=
  Parser.mark "\x7d"

/-- The faults of comprehensions over what is unpacked, or over several expressions. -/
def wrongComprehension : Parser Expression :=
  .firstOf
    [ do
        .firstOf [Parser.mark "(", openCurly]
        let _ ← unpacked self
        loops self
        Parser.refuse .starredComprehension,
      do
        openCurly
        let _ ← starNamedExpression self
        Parser.mark ","
        let _ ← items self
        loops self
        Parser.refuse .unbracketedTarget,
      do
        openCurly
        let _ ← starNamedExpression self
        Parser.mark ","
        loops self
        Parser.refuse .unbracketedTarget ]

/-- A generator. -/
def generator : Parser Expression :=
  .firstOf
    [ do
        Parser.mark "("
        let _ ← .firstOf [assignment self, unassigned self]
        loops self
        Parser.mark ")"
        return .other .generator,
      Parser.careful (wrongComprehension self) ]

/-! ### Sets and dictionaries -/

/-- A set, which is not empty. -/
def set : Parser Expression := do
  openCurly
  let found ← items self
  closeCurly
  return .set found

/-- A set of what a loop gives. -/
def setComprehension : Parser Expression :=
  .firstOf
    [ do
        openCurly
        let _ ← self .namedExpression
        loops self
        closeCurly
        return .other .setComprehension,
      Parser.careful (wrongComprehension self) ]

/-- A key and its value. -/
def pair : Parser (Option Expression × Expression) := do
  let key ← self .expression
  Parser.mark ":"
  return (some key, ← self .expression)

/-- A key and its value, or a dictionary that is unpacked. -/
def entry : Parser (Option Expression × Expression) :=
  .firstOf
    [ do Parser.mark "**"; return (none, ← self .bitOr),
      pair self ]

/-- The faults of a value that is unpacked or missing. -/
def wrongValue : List (Parser Expression) :=
  [ do
      let _ ← self .expression
      Parser.mark ":"
      Parser.mark "*"
      let _ ← self .bitOr
      Parser.refuse .starredValue,
    do
      let _ ← self .expression
      Parser.mark ":"
      Parser.ahead (.firstOf [closeCurly, Parser.mark ","])
      Parser.refuse .missingValue ]

/-- The faults of a key and its value. -/
def wrongPair : Parser Expression :=
  .firstOf
    ((do
        let _ ← self .expression
        Parser.notAhead (Parser.mark ":")
        Parser.refuse .missingColon) ::
      wrongValue self)

/-- The faults of entries: the first wrong one is told. -/
def wrongEntries : Parser Expression :=
  .firstOf
    ((do
        let _ ← Parser.separated (entry self)
        Parser.mark ","
        wrongPair self) ::
      wrongValue self)

/-- A dictionary. Its faults are told in every reading. -/
def dict : Parser Expression :=
  .firstOf
    [ do
        openCurly
        let entries ← Parser.attempt do
          let found ← Parser.separated (entry self)
          let _ ← Parser.isMark ","
          return found
        closeCurly
        return .dict (entries.getD []),
      do
        openCurly
        wrongEntries self ]

/-- A dictionary of what a loop gives. -/
def dictComprehension : Parser Expression :=
  .firstOf
    [ do
        openCurly
        let _ ← pair self
        loops self
        closeCurly
        return .other .dictComprehension,
      Parser.careful do
        openCurly
        Parser.mark "**"
        let _ ← self .bitOr
        loops self
        closeCurly
        Parser.refuse .doubleStarredComprehension ]

/-- What can be given no value with an equals sign, however it goes on. -/
def untargetable : Parser Expression :=
  .firstOf
    [ tuple self,
      generator self,
      do Parser.keyword "True"; return .constant (.truth true),
      do Parser.keyword "None"; return .constant .nothing,
      do Parser.keyword "False"; return .constant (.truth false) ]

/-! ### Atoms -/

/-- A number. -/
def number : Parser Expression := do
  match Number.ofDigits (← Parser.number) with
  | .ok value => return .constant (.number value)
  | .error fault => throw (.fault (.literal fault))

/-- What stands on its own or in brackets, where `quotations` reads quoted texts. -/
def atom (quotations : Parser Expression) : Parser Expression :=
  .firstOf
    [ do return .name (← Parser.name),
      do Parser.keyword "True"; return .constant (.truth true),
      do Parser.keyword "False"; return .constant (.truth false),
      do Parser.keyword "None"; return .constant .nothing,
      quotations,
      number,
      do
        Parser.ahead (Parser.mark "(")
        .firstOf [tuple self, group self, generator self],
      do
        Parser.ahead openCurly
        .firstOf [dict self, set self, dictComprehension self, setComprehension self],
      do Parser.mark "..."; return .constant .ellipsis ]

end LintBridge.Expression.Grammar
