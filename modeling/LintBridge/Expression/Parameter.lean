import LintBridge.Expression.Parser

/-!
Functions without a name: parameters, a colon and the value.

Parameters come in order: those without a default, those with one, a star and the ones to be named,
and two stars. A slash ends the ones that cannot be named.
-/

namespace LintBridge.Expression

namespace Parameter

variable (self : Rules)

/-- A parameter. -/
def parameter : Parser Unit := do
  let _ ← Parser.name

/-- The default of a parameter. -/
def default : Parser Unit :=
  .firstOf
    [ do
        Parser.mark "="
        let _ ← self .expression,
      Parser.careful do
        Parser.mark "="
        Parser.ahead (.firstOf [Parser.mark ")", Parser.mark ","])
        Parser.refuse .missingDefault ]

/-- The end of a parameter: a comma, or the colon behind it. -/
def ended (p : Parser Unit) : Parser Unit :=
  .firstOf
    [ do p; Parser.mark ",",
      do p; Parser.ahead (Parser.mark ":") ]

/-- A parameter without a default. -/
def plain : Parser Unit :=
  ended parameter

/-- A parameter with a default. -/
def defaulted : Parser Unit :=
  ended (do parameter; default self)

/-- A parameter, perhaps with a default. -/
def either : Parser Unit :=
  ended do
    parameter
    let _ ← Parser.attempt (default self)

/-- As many as there are. -/
def any (p : Parser Unit) : Parser Unit := do
  let _ ← Parser.many p

/-- As many as there are, at least one. -/
def some (p : Parser Unit) : Parser Unit := do
  let _ ← Parser.several p

/-- At most one. -/
def perhaps (p : Parser Unit) : Parser Unit := do
  let _ ← Parser.attempt p

/-- Parameters without a default and a slash. -/
def plainSlash : Parser Unit :=
  ended (do some plain; Parser.mark "/")

/-- Parameters, the last ones with a default, and a slash. -/
def defaultedSlash : Parser Unit :=
  ended (do any plain; some (defaulted self); Parser.mark "/")

/-- Either kind of parameters with a slash. -/
def slash : Parser Unit :=
  .firstOf [plainSlash, defaultedSlash self]

/-- The faults of two stars. -/
def wrongDoubleStar : Parser Unit :=
  .firstOf
    [ do
        Parser.mark "**"
        parameter
        Parser.mark "="
        Parser.refuse .doubleStarDefault,
      do
        Parser.mark "**"
        parameter
        Parser.mark ","
        parameter
        Parser.refuse .doubleStarNotLast,
      do
        Parser.mark "**"
        parameter
        Parser.mark ","
        .firstOf [Parser.mark "*", Parser.mark "**", Parser.mark "/"]
        Parser.refuse .doubleStarNotLast ]

/-- Two stars and a parameter. -/
def doubleStar : Parser Unit :=
  .firstOf
    [ Parser.careful wrongDoubleStar,
      do Parser.mark "**"; plain ]

/-- The faults of a star. -/
def wrongStar : Parser Unit :=
  .firstOf
    [ do
        Parser.mark "*"
        .firstOf
          [ Parser.mark ":",
            do
              Parser.mark ","
              .firstOf [Parser.mark ":", Parser.mark "**"] ]
        Parser.refuse .bareStar,
      do
        Parser.mark "*"
        parameter
        Parser.mark "="
        Parser.refuse .starDefault,
      do
        Parser.mark "*"
        .firstOf [plain, Parser.mark ","]
        any (either self)
        Parser.mark "*"
        .firstOf [plain, Parser.mark ","]
        Parser.refuse .starTwice ]

/-- A star and the parameters behind it, or two stars. -/
def star : Parser Unit :=
  .firstOf
    [ Parser.careful (wrongStar self),
      do
        Parser.mark "*"
        plain
        any (either self)
        perhaps doubleStar,
      do
        Parser.mark "*"
        Parser.mark ","
        some (either self)
        perhaps doubleStar,
      doubleStar ]

/-- The faults of parameters in a wrong order. -/
def wrongParameters : Parser Unit :=
  .firstOf
    [ do
        any plain
        .firstOf [defaultedSlash self, some (defaulted self)]
        plain
        Parser.refuse .defaultThenNone,
      do
        any plain
        Parser.mark "("
        let _ ← Parser.separated parameter
        perhaps (Parser.mark ",")
        Parser.mark ")"
        Parser.refuse .bracketedParameters,
      do
        Parser.mark "/"
        Parser.mark ","
        Parser.refuse .slashFirst,
      do
        slash self
        any (either self)
        Parser.mark "/"
        Parser.refuse .slashTwice,
      do
        perhaps (slash self)
        any (either self)
        Parser.mark "*"
        .firstOf [Parser.mark ",", plain]
        any (either self)
        Parser.mark "/"
        Parser.refuse .slashAfterStar,
      do
        some (either self)
        Parser.mark "/"
        Parser.mark "*"
        Parser.refuse .noCommaBeforeStar ]

/-- Parameters in order. -/
def parameters : Parser Unit :=
  .firstOf
    [ do
        plainSlash
        any plain
        any (defaulted self)
        perhaps (star self),
      do
        defaultedSlash self
        any (defaulted self)
        perhaps (star self),
      do
        some plain
        any (defaulted self)
        perhaps (star self),
      do
        some (defaulted self)
        perhaps (star self),
      star self ]

end Parameter

/-- A function without a name. -/
def function (self : Rules) : Parser Expression := do
  Parser.keyword "lambda"
  let _ ← Parser.attempt
    (.firstOf [Parser.careful (Parameter.wrongParameters self), Parameter.parameters self])
  Parser.mark ":"
  let _ ← self .expression
  return .other .function

end LintBridge.Expression
