import LintBridge.Toml.Number
import LintBridge.Toml.Table
import LintBridge.Toml.Text

/-!
Reading a TOML value.

An array may go over lines and hold comments; an inline table may not. The nesting of values is
bounded: an array uses up two of `nestingRoom`, an inline table three.
-/

namespace LintBridge.Toml

/-- The room for nested values. -/
def nestingRoom : Nat := 975

/-- A flaw met while building a table, at a place of the text. -/
def atPlace {α : Type} (left : Nat) : Except Flaw α → Except Stop α
  | .ok a => .ok a
  | .error flaw => .error (.broken flaw left)

/-- The words that are values. -/
def readTruth? (cs : List Char) : Option (Value × List Char) :=
  match "true".toList.isPrefixOf? cs with
  | some rest => some (.bool true, rest)
  | none => ("false".toList.isPrefixOf? cs).map (.bool false, ·)

/-- A value that holds no other. -/
def readScalar (cs : List Char) : Except Stop (Value × List Char) :=
  match cs with
  | [] => .error (.broken .invalidValue 0)
  | c :: rest =>
      if c = '"' || c = '\'' then do
        let (content, after) ← readText c rest
        return (.text (String.ofList content), after)
      else
        match readTruth? cs with
        | some found => .ok found
        | none =>
            match readNumeric? cs with
            | some reading => reading
            | none => .error (.broken .invalidValue cs.length)

/-- The equals sign of an entry and the blanks behind it. -/
def skipEquals (cs : List Char) : Except Stop (List Char) :=
  match cs with
  | '=' :: rest => .ok (skipBlanks rest)
  | _ => .error (.broken .expectedEquals cs.length)

/-! ### Nested values

The fuel bounds the number of nested and following values; `readEntry` gives more than any text can
use up. -/

mutual

/-- A value, `room` being left for nesting. -/
def readValue : (fuel room : Nat) → List Char → Except Stop (Value × List Char)
  | 0, _, _ => .error .tooDeep
  | fuel + 1, room, '[' :: rest =>
      if room < 2 then .error .tooDeep
      else do
        match ← skipGaps rest.length rest with
        | ']' :: after => return (.array [], after)
        | items =>
            let (values, after) ← readItems fuel (room - 2) items
            return (.array values, after)
  | fuel + 1, room, '\x7b' :: rest =>
      if room < 3 then .error .tooDeep
      else
        match skipBlanks rest with
        | '\x7d' :: after => .ok (.table [], after)
        | members => do
            let (entries, after) ← readMembers fuel (room - 3) .empty [] members
            return (.table entries, after)
  | _ + 1, _, cs => readScalar cs

/-- The items of an array, from one of them on to behind the closing bracket. A comma may follow the
last item. -/
def readItems : (fuel room : Nat) → List Char → Except Stop (List Value × List Char)
  | 0, _, _ => .error .tooDeep
  | fuel + 1, room, cs => do
      let (value, rest) ← readValue fuel room cs
      match ← skipGaps rest.length rest with
      | ']' :: after => return ([value], after)
      | ',' :: rest =>
          match ← skipGaps rest.length rest with
          | ']' :: after => return ([value], after)
          | items =>
              let (values, after) ← readItems fuel room items
              return (value :: values, after)
      | rest => .error (.broken .unclosedArray rest.length)

/-- The entries of an inline table, from one of them on to behind the closing brace. -/
def readMembers : (fuel room : Nat) → Marks → Entries → List Char →
    Except Stop (Entries × List Char)
  | 0, _, _, _, _ => .error .tooDeep
  | fuel + 1, room, marks, entries, cs => do
      let (key, rest) ← readKey (cs.length + 1) cs
      let (value, rest) ← readValue fuel room (← skipEquals rest)
      if marks.isClosed key then .error (.broken (.immutable key) rest.length)
      else
        let taken := .duplicateKey (key.getLastD "")
        let entries ← atPlace rest.length (entries.insert false key value taken)
        match skipBlanks rest with
        | '\x7d' :: after => return (entries, after)
        | ',' :: more =>
            let marks := if value.isContainer then marks.close key else marks
            readMembers fuel room marks entries (skipBlanks more)
        | rest => .error (.broken .unclosedInlineTable rest.length)

end

/-- A key, an equals sign and a value. -/
def readEntry (cs : List Char) : Except Stop ((Key × Value) × List Char) := do
  let (key, rest) ← readKey (cs.length + 1) cs
  let (value, after) ← readValue (2 * cs.length + 1) nestingRoom (← skipEquals rest)
  return ((key, value), after)

end LintBridge.Toml
