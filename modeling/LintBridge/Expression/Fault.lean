import LintBridge.Decimal.Integer
import LintBridge.Text.Printable
import LintBridge.Text.Quoted

/-!
Why a text is no expression.

A fault lies in the characters, in a quoted text, in a template or in the order of the tokens. Each
has its own wording, and faults inside a template say so in front.
-/

namespace LintBridge.Expression

/-- The ways to write a number. -/
inductive NumberKind where
  | binary
  | octal
  | decimal
  | hexadecimal
  | imaginary
deriving DecidableEq, Repr

def NumberKind.name : NumberKind → String
  | .binary => "binary"
  | .octal => "octal"
  | .decimal => "decimal"
  | .hexadecimal => "hexadecimal"
  | .imaginary => "imaginary"

/-- Faults of characters, found where a text is split into tokens. -/
inductive LexicalFault where
  | badNumber (kind : NumberKind)
  | badDigit (digit : Char) (kind : NumberKind)
  | leadingZeros
  | badCharacter (c : Char)
  | unterminated (tripled : Bool) (line : Nat)
  | unmatched (bracket : Char)
  | mismatched (closing opening : Char) (openedOn : Option Nat)
  | tooManyBrackets
  | neverClosed (bracket : Char)
  | endedEarly
  | badContinuation
  | badDedent
  | mixedIndent
deriving DecidableEq, Repr

/-- A character between single quotes. -/
def between (c : Char) : String := "'" ++ c.toString ++ "'"

/-- The code point of a character, with at least four hexadecimal digits. -/
def codePoint (c : Char) : String :=
  "U+" ++ String.ofList ((Text.hex 4 c.toNat).map Char.toUpper)

def LexicalFault.message : LexicalFault → String
  | .badNumber kind => "invalid " ++ kind.name ++ " literal"
  | .badDigit digit kind => "invalid digit " ++ between digit ++ " in " ++ kind.name ++ " literal"
  | .leadingZeros =>
      "leading zeros in decimal integer literals are not permitted; " ++
        "use an 0o prefix for octal integers"
  | .badCharacter c =>
      if Text.isPrintable c then "invalid character " ++ between c ++ " (" ++ codePoint c ++ ")"
      else "invalid non-printable character " ++ codePoint c
  | .unterminated tripled line =>
      "unterminated " ++ (if tripled then "triple-quoted " else "") ++
        s!"string literal (detected at line {line})"
  | .unmatched bracket => "unmatched " ++ between bracket
  | .mismatched closing opening openedOn =>
      "closing parenthesis " ++ between closing ++ " does not match opening parenthesis " ++
        between opening ++
        match openedOn with
        | some line => s!" on line {line}"
        | none => ""
  | .tooManyBrackets => "too many nested parentheses"
  | .neverClosed bracket => between bracket ++ " was never closed"
  | .endedEarly => "unexpected EOF while parsing"
  | .badContinuation => "unexpected character after line continuation character"
  | .badDedent => "unindent does not match any outer indentation level"
  | .mixedIndent => "inconsistent use of tabs and spaces in indentation"

/-- Whether a fault is told wherever it lies. The others end a text, and are told only if a reader
comes to them. -/
def LexicalFault.isLoud : LexicalFault → Bool
  | .neverClosed _ | .endedEarly | .badContinuation | .badDedent | .mixedIndent => false
  | _ => true

/-- Faults of numbers and of quoted texts. -/
inductive LiteralFault where
  | tooManyDigits (count : Nat)
  | notAscii
  | mixedBytes
  | badEscape (start stop : Nat) (reason : String)
  | badByteEscape (position : Nat)
deriving DecidableEq, Repr

def LiteralFault.message : LiteralFault → String
  | .tooManyDigits count =>
      Decimal.tooLongMessage count ++
        " - Consider hexadecimal for huge integer literals to avoid decimal conversion limits."
  | .notAscii => "bytes can only contain ASCII literal characters"
  | .mixedBytes => "cannot mix bytes and nonbytes literals"
  | .badEscape start stop reason =>
      "(unicode error) 'unicodeescape' codec can't decode bytes in position " ++
        s!"{start}-{stop}: " ++ reason
  | .badByteEscape position => "(value error) invalid \\x escape at position " ++ toString position

/-- Faults of templates. -/
inductive TemplateFault where
  | singleClosing
  | tooDeep
  | backslash
  | comment
  | tooManyBrackets
  | unmatched (bracket : Char)
  | mismatched (closing opening : Char)
  | unterminated
  | expectedClosing
  | emptyExpression
  | missingExpression (mark : Char)
  | badConversion
deriving DecidableEq, Repr

def TemplateFault.message : TemplateFault → String
  | .singleClosing => "f-string: single '\x7d' is not allowed"
  | .tooDeep => "f-string: expressions nested too deeply"
  | .backslash => "f-string expression part cannot include a backslash"
  | .comment => "f-string expression part cannot include '#'"
  | .tooManyBrackets => "f-string: too many nested parenthesis"
  | .unmatched bracket => "f-string: unmatched " ++ between bracket
  | .mismatched closing opening =>
      "f-string: closing parenthesis " ++ between closing ++
        " does not match opening parenthesis " ++ between opening
  | .unterminated => "f-string: unterminated string"
  | .expectedClosing => "f-string: expecting '\x7d'"
  | .emptyExpression => "f-string: empty expression not allowed"
  | .missingExpression mark => "f-string: expression required before " ++ between mark
  | .badConversion => "f-string: invalid conversion character: expected 's', 'r', or 'a'"

/-- Faults of the order of tokens. -/
inductive GrammarFault where
  | unreadable
  | unexpectedIndent
  | forgottenComma
  | maybeEquals
  | missingElse
  | missingCallBrackets (name : String)
  | namedTarget (kind : String)
  | assignedValue (kind : String)
  | assignedTarget (kind : String)
  | assignedKeyword
  | starredGroup
  | doubleStarredGroup
  | starredComprehension
  | unbracketedTarget
  | doubleStarredComprehension
  | missingColon
  | missingValue
  | starredValue
  | unbracketedGenerator
  | positionalAfterKeyword
  | positionalAfterUnpacking
  | starAfterUnpacking
  | missingDefault
  | defaultThenNone
  | bracketedParameters
  | slashFirst
  | slashTwice
  | slashAfterStar
  | noCommaBeforeStar
  | bareStar
  | starDefault
  | starTwice
  | doubleStarDefault
  | doubleStarNotLast
deriving DecidableEq, Repr

def GrammarFault.message : GrammarFault → String
  | .unreadable => "invalid syntax"
  | .unexpectedIndent => "unexpected indent"
  | .forgottenComma => "invalid syntax. Perhaps you forgot a comma?"
  | .maybeEquals => "invalid syntax. Maybe you meant '==' or ':=' instead of '='?"
  | .missingElse => "expected 'else' after 'if' expression"
  | .missingCallBrackets name =>
      "Missing parentheses in call to '" ++ name ++ "'. Did you mean " ++ name ++ "(...)?"
  | .namedTarget kind => "cannot use assignment expressions with " ++ kind
  | .assignedValue kind =>
      "cannot assign to " ++ kind ++ " here. Maybe you meant '==' instead of '='?"
  | .assignedTarget kind => "cannot assign to " ++ kind
  | .assignedKeyword => "expression cannot contain assignment, perhaps you meant \"==\"?"
  | .starredGroup => "cannot use starred expression here"
  | .doubleStarredGroup => "cannot use double starred expression here"
  | .starredComprehension => "iterable unpacking cannot be used in comprehension"
  | .unbracketedTarget => "did you forget parentheses around the comprehension target?"
  | .doubleStarredComprehension => "dict unpacking cannot be used in dict comprehension"
  | .missingColon => "':' expected after dictionary key"
  | .missingValue => "expression expected after dictionary key and ':'"
  | .starredValue => "cannot use a starred expression in a dictionary value"
  | .unbracketedGenerator => "Generator expression must be parenthesized"
  | .positionalAfterKeyword => "positional argument follows keyword argument"
  | .positionalAfterUnpacking => "positional argument follows keyword argument unpacking"
  | .starAfterUnpacking => "iterable argument unpacking follows keyword argument unpacking"
  | .missingDefault => "expected default value expression"
  | .defaultThenNone => "non-default argument follows default argument"
  | .bracketedParameters => "Lambda expression parameters cannot be parenthesized"
  | .slashFirst => "at least one argument must precede /"
  | .slashTwice => "/ may appear only once"
  | .slashAfterStar => "/ must be ahead of *"
  | .noCommaBeforeStar => "expected comma between / and *"
  | .bareStar => "named arguments must follow bare *"
  | .starDefault => "var-positional argument cannot have default value"
  | .starTwice => "* argument may appear only once"
  | .doubleStarDefault => "var-keyword argument cannot have default value"
  | .doubleStarNotLast => "arguments cannot follow var-keyword argument"

/-- Why a text is no expression. -/
inductive Fault where
  | lexical (fault : LexicalFault)
  | literal (fault : LiteralFault)
  | template (fault : TemplateFault)
  | grammar (fault : GrammarFault)
  | inTemplate (fault : Fault)
deriving DecidableEq, Repr

def Fault.message : Fault → String
  | .lexical fault => fault.message
  | .literal fault => fault.message
  | .template fault => fault.message
  | .grammar fault => fault.message
  | .inTemplate fault => "f-string: " ++ fault.message

end LintBridge.Expression
