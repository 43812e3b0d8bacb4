import LintBridge.Expression.Reader
import LintBridge.Text.Half

/-!
The values that expressions spell.

Constants are values, and tuples, sets and dictionaries of values, the empty set as a call; so are
numbers with a sign and sums of a real and an imaginary one. All other expressions have no value.
Sets hold, and dictionaries are keyed by, values that do not change: no sets and no dictionaries,
and no tuples of them.
-/

namespace LintBridge.Expression

/-- A value. -/
inductive Value where
  | constant (value : Constant)
  | tuple (items : List Value)
  | set
  | dict
deriving Repr

/-- Why an expression has no value. -/
inductive ValueFault where
  | malformed
  | unpackedDict
  | changeable (kind : String)
  | tooLarge
deriving DecidableEq, Repr

def ValueFault.message : ValueFault → String
  | .malformed => "malformed node or string on line 1"
  | .unpackedDict => "malformed node or string: None"
  | .changeable kind => "unhashable type: '" ++ kind ++ "'"
  | .tooLarge => "int too large to convert to float"

mutual

/-- The kind of the first part of a value that may change. -/
def Value.changeable? : Value → Option String
  | .constant _ => none
  | .tuple items => firstChangeable? items
  | .set => some "set"
  | .dict => some "dict"

/-- The kind of the first part of values that may change. -/
def firstChangeable? : List Value → Option String
  | [] => none
  | value :: rest => value.changeable?.or (firstChangeable? rest)

end

/-- A value that does not change. -/
def Value.fixed (value : Value) : Except ValueFault Unit :=
  match value.changeable? with
  | some kind => .error (.changeable kind)
  | none => .ok ()

/-- The number that an expression is. -/
def number? : Expression → Option Number
  | .constant (.number value) => some value
  | _ => none

/-- The number that an expression is, perhaps with a sign. -/
def signedNumber? : Expression → Option Number
  | .signed _ operand => number? operand
  | e => number? e

/-- The first whole number that is rounded to no finite binary one. -/
def overflow : Nat :=
  Nat.pow 2 1024 - Nat.pow 2 970

/-- The value of a sum. -/
def sumValue (left right : Expression) : Except ValueFault Value :=
  match signedNumber? left, number? right with
  | some (.whole value), some .imaginary =>
      if overflow ≤ value then .error .tooLarge else .ok (.constant (.number .imaginary))
  | some .real, some .imaginary => .ok (.constant (.number .imaginary))
  | _, _ => .error .malformed

mutual

/-- The value of an expression. -/
def value : Expression → Except ValueFault Value
  | .constant c => .ok (.constant c)
  | .tuple items => do return .tuple (← values items)
  | .set items => do
      fixedValues items
      return .set
  | .dict entries => do
      entryValues entries
      return .dict
  | .call (.name function) true =>
      if function = "set".toList then .ok .set else .error .malformed
  | .signed _ operand =>
      match number? operand with
      | some number => .ok (.constant (.number number))
      | none => .error .malformed
  | .sum left right => sumValue left right
  | _ => .error .malformed

/-- The values of expressions. -/
def values : List Expression → Except ValueFault (List Value)
  | [] => .ok []
  | e :: rest => do return (← value e) :: (← values rest)

/-- Checks that expressions have values that do not change. -/
def fixedValues : List Expression → Except ValueFault Unit
  | [] => .ok ()
  | e :: rest => do
      (← value e).fixed
      fixedValues rest

/-- Checks that entries have values, and keys that do not change. -/
def entryValues : List (Option Expression × Expression) → Except ValueFault Unit
  | [] => .ok ()
  | (none, _) :: _ => .error .unpackedDict
  | (some key, e) :: rest => do
      let key ← value key
      let _ ← value e
      key.fixed
      entryValues rest

end

/-- Why a text spells no value: it cannot be written as bytes, holds a null character, is no
expression, or is one without a value. -/
inductive TextFault where
  | noBytes (halves : Text.NoBytes)
  | nullCharacter
  | expression (fault : Fault)
  | value (fault : ValueFault)
deriving DecidableEq, Repr

def TextFault.message : TextFault → String
  | .noBytes halves => halves.message
  | .nullCharacter => "source code string cannot contain null bytes"
  | .expression fault => fault.message
  | .value fault => fault.message

/-- The value that a text spells. -/
def valueOfText (cs : List Char) : Except TextFault Value :=
  let text := cs.dropWhile fun c => c == ' ' || c == '\t'
  match Text.firstHalves? text with
  | some halves => .error (.noBytes halves)
  | none =>
      if text.contains '\x00' then .error .nullCharacter
      else
        match ofText text with
        | .error fault => .error (.expression fault)
        | .ok e => (value e).mapError .value

end LintBridge.Expression
