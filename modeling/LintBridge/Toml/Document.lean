import LintBridge.Text.Newline
import LintBridge.Toml.Reader

/-!
TOML documents: statements, one a line, that build one table.

An entry goes to the table that the last header named. A table may be declared by one header only,
and not after an entry above has named it inside a dotted key; a value once given stays.
-/

namespace LintBridge.Toml

/-- A document as far as it is read: its table, what is marked in it, and the last header. -/
structure Document where
  entries : Entries
  marks : Marks
  header : Key

namespace Document

/-- A document of which nothing is read. -/
def empty : Document := ⟨[], .empty, []⟩

/-- Takes up an entry whose text ends where `left` characters are left. -/
def addEntry (d : Document) (key : Key) (value : Value) (left : Nat) : Except Stop Document := do
  let parent := key.dropLast
  let passed := (List.range parent.length).map fun i => d.header ++ key.take (i + 1)
  match passed.find? d.marks.isDeclared with
  | some k => .error (.broken (.redefined k) left)
  | none =>
      if d.marks.isClosed (d.header ++ parent) then
        .error (.broken (.immutable (d.header ++ parent)) left)
      else
        let entries ← atPlace left (d.entries.insert true (d.header ++ key) value .overwritten)
        let marks := { d.marks with pending := passed ++ d.marks.pending }
        let marks := if value.isContainer then marks.close (d.header ++ key) else marks
        return { d with entries, marks }

/-- The header of a table, from behind its bracket on. -/
def readHeader (d : Document) (cs : List Char) : Except Stop (Document × List Char) := do
  let (key, rest) ← readKey (cs.length + 1) (skipBlanks cs)
  if d.marks.isDeclared key || d.marks.isClosed key then
    .error (.broken (.declaredTwice key) rest.length)
  else
    let entries ← atPlace rest.length (d.entries.declare key)
    match rest with
    | ']' :: after => return (⟨entries, d.marks.declare key, key⟩, after)
    | _ => .error (.broken .unclosedHeader rest.length)

/-- The header of the next table of an array, from behind its two brackets on. -/
def readArrayHeader (d : Document) (cs : List Char) : Except Stop (Document × List Char) := do
  let (key, rest) ← readKey (cs.length + 1) (skipBlanks cs)
  if d.marks.isClosed key then .error (.broken (.immutable key) rest.length)
  else
    let entries ← atPlace rest.length (d.entries.appendTable key)
    match rest with
    | ']' :: ']' :: after => return (⟨entries, (d.marks.forget key).declare key, key⟩, after)
    | _ => .error (.broken .unclosedArrayHeader rest.length)

/-- A statement, from its first character on; an empty one takes nothing. -/
def readStatement (d : Document) (cs : List Char) : Except Stop (Document × List Char) :=
  match cs with
  | [] => .ok (d, cs)
  | c :: rest =>
      if startsKey c then do
        let ((key, value), after) ← readEntry cs
        return (← d.addEntry key value after.length, after)
      else if c = '[' then
        let settled := { d with marks := d.marks.settle }
        match rest with
        | '[' :: rest => settled.readArrayHeader rest
        | _ => settled.readHeader rest
      else if c = '#' || c = '\n' then .ok (d, cs)
      else .error (.broken .invalidStatement cs.length)

/-- All statements. Each round but the last one takes a line, so `fuel` is at most the length of the
text. -/
def readStatements : (fuel : Nat) → Document → List Char → Except Stop Document
  | 0, d, _ => .ok d
  | fuel + 1, d, cs => do
      let (d, rest) ← d.readStatement (skipBlanks cs)
      match ← skipComment (skipBlanks rest) with
      | [] => return d
      | '\n' :: rest => readStatements fuel d rest
      | rest => .error (.broken .expectedEndOfLine rest.length)

end Document

/-- Why a text is no document. -/
inductive ReadError where
  | malformed (flaw : Flaw) (place : Place)
  | numeralTooLong (digits : Nat)
  | tooDeep
deriving DecidableEq, Repr

/-- The error of a stop in a text. -/
def Stop.toReadError (text : List Char) : Stop → ReadError
  | .broken flaw left => .malformed flaw (.behind (text.take (text.length - left)) left)
  | .numeralTooLong digits => .numeralTooLong digits
  | .tooDeep => .tooDeep

def ReadError.message : ReadError → String
  | .malformed flaw place => flaw.message ++ " (at " ++ place.text ++ ")"
  | .numeralTooLong digits => Decimal.tooLongMessage digits
  | .tooDeep => "maximum recursion depth exceeded"

/-- The table of a document. A line may also end with a carriage return and a line feed. -/
def read (cs : List Char) : Except ReadError Entries :=
  let text := Text.joinReturns cs
  match Document.readStatements (text.length + 1) .empty text with
  | .ok d => .ok d.entries
  | .error stop => .error (stop.toReadError text)

end LintBridge.Toml
