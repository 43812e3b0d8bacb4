import LintBridge.Decimal.Binary64

/-!
JSON documents.

Whole numbers and numbers with a fraction or an exponent are kept apart, since a document may mean
them differently. An object keeps its members in the order of the text, repeated names included; the
last member of a name is the one that counts.
-/

namespace LintBridge

/-- A JSON document. A string may hold half of a surrogate pair, which is no character: such a
string is `brokenStr`, with a stand-in in the place of the half. -/
inductive Json where
  | null
  | bool (value : Bool)
  | int (value : Int)
  | real (value : Decimal.Binary64)
  | str (text : String)
  | brokenStr (text : String)
  | arr (items : List Json)
  | obj (members : List (String × Json))
deriving Repr

namespace Json

/-- The value that counts for `name` among the members of an object. -/
def lookup (name : String) : List (String × Json) → Option Json
  | [] => none
  | (key, value) :: rest => (lookup name rest).or (if key = name then some value else none)

/-! ### Parts of a document -/

/-- The member of a name, and `null` if there is none. -/
def member (document : Json) (name : String) : Json :=
  match document with
  | .obj members => (lookup name members).getD .null
  | _ => .null

/-- The text that a string holds, with stand-ins for halves of surrogate pairs. -/
def text? : Json → Option String
  | .str s => some s
  | .brokenStr s => some s
  | _ => none

/-- The value of a whole number. -/
def int? : Json → Option Int
  | .int n => some n
  | _ => none

/-- The value of a truth value. -/
def truth? : Json → Option Bool
  | .bool b => some b
  | _ => none

/-- The items of an array; anything else has none. -/
def items : Json → List Json
  | .arr items => items
  | _ => []

/-- The members of an object; anything else has none. -/
def pairs : Json → List (String × Json)
  | .obj members => members
  | _ => []

end Json
end LintBridge
