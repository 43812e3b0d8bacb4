import LintBridge.Expression.Display

/-!
Arguments of calls: values, some of them perhaps unpacked, then the ones that are given to names and
dictionaries that are unpacked.
-/

namespace LintBridge.Expression.Grammar

variable (self : Rules)

/-- Arguments, as far as they matter for what is wrong: the number of those that are given to no
name, and whether a dictionary is unpacked. -/
structure Arguments where
  positional : Nat
  unpacking : Bool
deriving DecidableEq, Repr

/-- An argument among the named ones. -/
inductive NamedArgument where
  | named
  | starred
  | unpacked
deriving DecidableEq, Repr

/-- Arguments with so many in front of the named ones. -/
def Arguments.ofNamed (front : Nat) (named : List NamedArgument) : Arguments :=
  ⟨front + named.count .starred, named.contains .unpacked⟩

/-- The faults of an argument that is given to what is no name. -/
def wrongNamedArgument : Parser NamedArgument :=
  .firstOf
    [ do
        let word ← .firstOf <| ["True", "False", "None"].map fun word => do
          Parser.keyword word
          return word
        Parser.mark "="
        Parser.refuse (.assignedTarget word),
      do
        let _ ← Parser.name
        Parser.mark "="
        let _ ← self .expression
        loops self
        Parser.refuse .maybeEquals,
      do
        Parser.notAhead do
          let _ ← Parser.name
          Parser.mark "="
        let _ ← self .expression
        Parser.mark "="
        Parser.refuse .assignedKeyword ]

/-- An argument that is given to a name. -/
def namedArgument : Parser NamedArgument := do
  let _ ← Parser.name
  Parser.mark "="
  let _ ← self .expression
  return .named

/-- A named argument, or one that is unpacked. -/
def namedOrStarred : Parser NamedArgument :=
  .firstOf
    [ Parser.careful (wrongNamedArgument self),
      namedArgument self,
      do
        let _ ← unpacked self
        return .starred ]

/-- A named argument, or a dictionary that is unpacked. -/
def namedOrUnpacked : Parser NamedArgument :=
  .firstOf
    [ Parser.careful (wrongNamedArgument self),
      namedArgument self,
      do
        Parser.mark "**"
        let _ ← self .expression
        return .unpacked ]

/-- Named arguments. -/
def namedArguments : Parser (List NamedArgument) :=
  .firstOf
    [ do
        let front ← Parser.separated (namedOrStarred self)
        Parser.mark ","
        return front ++ (← Parser.separated (namedOrUnpacked self)),
      Parser.separated (namedOrStarred self),
      Parser.separated (namedOrUnpacked self) ]

/-- An argument in front of the named ones. -/
def plainArgument : Parser Expression :=
  .firstOf
    [ unpacked self,
      do
        let e ← .firstOf [assignment self, unassigned self]
        Parser.notAhead (Parser.mark "=")
        return e ]

/-- Arguments in order. -/
def orderedArguments : Parser Arguments :=
  .firstOf
    [ do
        let front ← Parser.separated (plainArgument self)
        let named ← Parser.attempt do
          Parser.mark ","
          namedArguments self
        return .ofNamed front.length (named.getD []),
      do return .ofNamed 0 (← namedArguments self) ]

/-- A generator without brackets. -/
def bareGenerator : Parser Unit := do
  let _ ← self .expression
  loops self

/-- The faults of arguments in a wrong order, and of generators without brackets. -/
def wrongArguments : Parser Arguments :=
  .firstOf
    [ do
        let _ ← orderedArguments self
        Parser.mark ","
        Parser.mark "*"
        Parser.refuse .starAfterUnpacking,
      do
        bareGenerator self
        Parser.mark ","
        let _ ← Parser.attempt
          (.firstOf
            [ do
                let _ ← orderedArguments self,
              bareGenerator self ])
        Parser.refuse .unbracketedGenerator,
      do
        let _ ← Parser.name
        Parser.mark "="
        bareGenerator self
        Parser.refuse .maybeEquals,
      do
        let arguments ← orderedArguments self
        loops self
        if arguments.positional ≤ 1 then Parser.close
        Parser.refuse .unbracketedGenerator,
      do
        let _ ← orderedArguments self
        Parser.mark ","
        bareGenerator self
        Parser.refuse .unbracketedGenerator,
      do
        let arguments ← orderedArguments self
        Parser.mark ","
        let _ ← orderedArguments self
        Parser.refuse
          (if arguments.unpacking then .positionalAfterUnpacking else .positionalAfterKeyword) ]

/-- Arguments. -/
def arguments : Parser Unit :=
  .firstOf
    [ do
        let _ ← orderedArguments self
        let _ ← Parser.isMark ","
        Parser.ahead (Parser.mark ")"),
      Parser.careful do
        let _ ← wrongArguments self ]

end LintBridge.Expression.Grammar
