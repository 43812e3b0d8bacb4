import LintBridge.Assoc
import LintBridge.Toml.Value

/-!
Building tables by dotted keys, and the rules about what may be said of a table twice.

A key leads through tables; a table that is missing on the way is made. A document marks tables as
declared, which forbids a second declaration, and inline values as closed, which forbids any change
at the key or below it.
-/

namespace LintBridge.Toml

namespace Entries

/-- The table with a value under a name, in the place of the value it had. -/
def put (name : String) (value : Value) (entries : Entries) : Entries :=
  Assoc.put name value entries

/-- Changes what stands last in a list. -/
def changeLast (change : Value → Except Flaw Value) : List Value → Except Flaw (List Value)
  | [] => .error .overwritten
  | [last] => return [← change last]
  | item :: items => return item :: (← changeLast change items)

/-- Changes the entries of a value that is a table. -/
def changeTable (change : Entries → Except Flaw Entries) : Value → Except Flaw Value
  | .table entries => return .table (← change entries)
  | _ => .error .overwritten

/-- Changes the table that a key leads to. With `intoArrays` a key also leads into the last table of
an array. -/
def update (intoArrays : Bool) (change : Entries → Except Flaw Entries) :
    Key → Entries → Except Flaw Entries
  | [], entries => change entries
  | name :: rest, entries => do
      let inner ←
        match (entries.get? name).getD (.table []) with
        | .array items =>
            if intoArrays then
              .array <$> changeLast (changeTable (update intoArrays change rest)) items
            else .error .overwritten
        | value => changeTable (update intoArrays change rest) value
      return entries.put name inner

/-- Makes sure of a table. -/
def declare (key : Key) (entries : Entries) : Except Flaw Entries :=
  entries.update true .ok key

/-- Adds an empty table to the array of tables at a key, which is made if it is missing. -/
def appendTable (key : Key) (entries : Entries) : Except Flaw Entries :=
  let name := key.getLastD ""
  entries.update true
    (fun inner =>
      match inner.get? name with
      | none => .ok (inner.put name (.array [.table []]))
      | some (.array items) => .ok (inner.put name (.array (items ++ [.table []])))
      | some _ => .error .overwritten)
    key.dropLast

/-- Adds a value at a key that has none; `taken` tells what is wrong if it has one. -/
def insert (intoArrays : Bool) (key : Key) (value : Value) (taken : Flaw) (entries : Entries) :
    Except Flaw Entries :=
  let name := key.getLastD ""
  entries.update intoArrays
    (fun inner => if (inner.get? name).isSome then .error taken else .ok (inner.put name value))
    key.dropLast

end Entries

/-- The keys that are marked. A table named inside a dotted key counts as declared only when the
next header comes: until then it is `pending`. -/
structure Marks where
  declared : List Key
  closed : List Key
  pending : List Key

namespace Marks

/-- Nothing is marked. -/
def empty : Marks := ⟨[], [], []⟩

/-- Whether a key or one that leads to it is closed. -/
def isClosed (marks : Marks) (key : Key) : Bool :=
  marks.closed.any (·.isPrefixOf key)

/-- Whether the table of a key has been declared. -/
def isDeclared (marks : Marks) (key : Key) : Bool :=
  marks.declared.contains key

/-- A header comes: what was pending is declared. -/
def settle (marks : Marks) : Marks :=
  { marks with declared := marks.pending ++ marks.declared, pending := [] }

/-- Marks the table of a key as declared. -/
def declare (key : Key) (marks : Marks) : Marks :=
  { marks with declared := key :: marks.declared }

/-- Marks a key as closed. -/
def close (key : Key) (marks : Marks) : Marks :=
  { marks with closed := key :: marks.closed }

/-- Forgets a key and all below it, since it now names a new table. -/
def forget (key : Key) (marks : Marks) : Marks :=
  { marks with
    declared := marks.declared.filter (!key.isPrefixOf ·)
    closed := marks.closed.filter (!key.isPrefixOf ·) }

end Marks

/-- Whether a value is an inline array or an inline table. -/
def Value.isContainer : Value → Bool
  | .array _ | .table _ => true
  | _ => false

end LintBridge.Toml
