import LintBridge.Expression.Numeral

/-!
Expressions, as far as they matter for the values that they spell and for telling what is wrong.

Values are kept whole: constants, tuples, sets, dictionaries and the numbers that are written with a
sign or as a sum. Of all other expressions only their kind is kept.
-/

namespace LintBridge

namespace Expression

/-- Constants. What a quoted text holds does not matter. -/
inductive Constant where
  | nothing
  | truth (value : Bool)
  | ellipsis
  | number (value : Number)
  | text
deriving DecidableEq, Repr

/-- Kinds of expressions that are no values. -/
inductive Kind where
  | operation
  | function
  | generator
  | yielding
  | awaiting
  | setComprehension
  | dictComprehension
  | template
  | conditional
  | named
deriving DecidableEq, Repr

end Expression

/-- An expression. An entry of a dictionary without a key unpacks another one; a call is bare if it
has no arguments; a comparison tells whether it asks for being contained. -/
inductive Expression where
  | name (text : List Char)
  | constant (value : Expression.Constant)
  | tuple (items : List Expression)
  | set (items : List Expression)
  | dict (entries : List (Option Expression × Expression))
  | call (function : Expression) (bare : Bool)
  | signed (negative : Bool) (operand : Expression)
  | sum (left right : Expression)
  | starred (value : Expression)
  | attribute
  | comparison (left : Expression) (contained : Bool)
  | other (kind : Expression.Kind)

namespace Expression

instance : Inhabited Expression := ⟨.attribute⟩

def Constant.describe : Constant → String
  | .nothing => "None"
  | .truth value => if value then "True" else "False"
  | .ellipsis => "ellipsis"
  | .number _ => "literal"
  | .text => "literal"

def Kind.describe : Kind → String
  | .operation => "expression"
  | .function => "lambda"
  | .generator => "generator expression"
  | .yielding => "yield expression"
  | .awaiting => "await expression"
  | .setComprehension => "set comprehension"
  | .dictComprehension => "dict comprehension"
  | .template => "f-string expression"
  | .conditional => "conditional expression"
  | .named => "named expression"

/-- What an expression is called where it stands in a wrong place. -/
def describe : Expression → String
  | .name _ => "name"
  | .constant value => value.describe
  | .tuple _ => "tuple"
  | .set _ => "set display"
  | .dict _ => "dict literal"
  | .call .. => "function call"
  | .signed .. => "expression"
  | .sum .. => "expression"
  | .starred _ => "starred"
  | .attribute => "attribute"
  | .comparison .. => "comparison"
  | .other kind => kind.describe

mutual

/-- The part of an expression that can be no target of a loop. A target that is asked to be
contained in something is the left side of a comparison. -/
def misplaced? : Expression → Option Expression
  | .tuple items => firstMisplaced? items
  | .starred value => misplaced? value
  | .comparison left contained => if contained then misplaced? left else none
  | .name _ => none
  | .attribute => none
  | e => some e

/-- The first part of expressions that can be no target of a loop. -/
def firstMisplaced? : List Expression → Option Expression
  | [] => none
  | e :: rest => (misplaced? e).or (firstMisplaced? rest)

end

/-- A tuple of expressions, or the expression itself if it is one without a comma behind it. -/
def ofList (first : Expression) (more : List Expression) (comma : Bool) : Expression :=
  if more.isEmpty && !comma then first else .tuple (first :: more)

end Expression

end LintBridge
