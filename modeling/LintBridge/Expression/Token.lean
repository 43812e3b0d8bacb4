import LintBridge.Expression.Fault

/-!
The tokens of an expression.

A token knows the line that it starts on and how many brackets are open behind it.
-/

namespace LintBridge.Expression

/-- A quoted text as it is written: the kind that the letters in front give it, and what stands
between its quotes. -/
structure Quotation where
  bytes : Bool
  raw : Bool
  template : Bool
  content : List Char
deriving DecidableEq, Repr

/-- What a token is. -/
inductive Shape where
  | name (text : List Char)
  | keyword (word : String)
  | number (digits : List Char)
  | quotation (text : Quotation)
  | mark (text : String)
  | lineEnd
  | indent
  | dedent
  | finish
deriving DecidableEq, Repr

/-- A token with its line and the number of brackets that are open behind it. -/
structure Token where
  shape : Shape
  line : Nat
  depth : Nat
deriving DecidableEq, Repr

/-- How the tokens of a text come to an early end: the fault, the innermost bracket that is open
there with its line, and whether reading the last token came to it already. -/
structure Break where
  fault : LexicalFault
  opened : Option (Char × Nat)
  met : Bool
deriving DecidableEq, Repr

/-- A text in tokens, up to its end or to a break. -/
structure Lexed where
  tokens : List Token
  stop : Option Break
deriving DecidableEq, Repr

/-- Words that are no names. -/
def keywords : List String :=
  [ "False", "None", "True", "and", "as", "assert", "async", "await", "break", "class", "continue",
    "def", "del", "elif", "else", "except", "finally", "for", "from", "global", "if", "import",
    "in", "is", "lambda", "nonlocal", "not", "or", "pass", "raise", "return", "try", "while",
    "with", "yield" ]

/-- Names that are words of their own in some places. -/
def softKeywords : List String :=
  ["_", "case", "match"]

/-- Marks of more than one character, the longest first. -/
def longMarks : List String :=
  [ "...", "**=", "//=", ">>=", "<<=", "!=", "%=", "&=", "**", "*=", "+=", "-=", "->", "//", "/=",
    ":=", "<<", "<=", "<>", "==", ">=", ">>", "@=", "^=", "|=" ]

/-- The shape of a word. -/
def Shape.ofWord (word : List Char) : Shape :=
  match keywords.find? (·.toList = word) with
  | some known => .keyword known
  | none => .name word

/-- Whether a token of a shape ends only where the next character does not belong to it. -/
def Shape.isOpenEnded : Shape → Bool
  | .name _ | .keyword _ | .number _ => true
  | .mark text => text.length < 3
  | _ => false

/-- The mark at the start of a text, which is at least one character. -/
def takeMark (c : Char) (rest : List Char) : String × List Char :=
  match longMarks.find? fun mark => mark.toList.isPrefixOf (c :: rest) with
  | some mark => (mark, (c :: rest).drop mark.length)
  | none => (c.toString, rest)

end LintBridge.Expression
