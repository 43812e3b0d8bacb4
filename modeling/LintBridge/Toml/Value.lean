import LintBridge.Decimal.Binary64
import LintBridge.Text.Quoted

/-!
TOML values, and what can be wrong with a TOML document.

A table keeps its entries in the order of the text. The readers take the characters that are left
and give back what they read with the characters left after it; a flaw lies where so many characters
are left, and `Place` turns that number into a line and a column.
-/

namespace LintBridge.Toml

/-- A TOML value. Dates and times are kept as they are written. -/
inductive Value where
  | text (content : String)
  | int (value : Int)
  | real (value : Decimal.Binary64)
  | bool (value : Bool)
  | moment (written : String)
  | array (items : List Value)
  | table (entries : List (String × Value))
deriving Repr

/-! ### Equality

Values hold lists of values, through which no equality is derived: it is decided here along the
values, the items of arrays and the entries of tables. -/

mutual

/-- Whether two values are the same. -/
def Value.same : Value → Value → Bool
  | .text content, .text other => content == other
  | .int value, .int other => value == other
  | .real value, .real other => value == other
  | .bool value, .bool other => value == other
  | .moment written, .moment other => written == other
  | .array items, .array others => sameItems items others
  | .table entries, .table others => sameEntries entries others
  | _, _ => false

/-- Whether two arrays have the same items. -/
def sameItems : List Value → List Value → Bool
  | [], [] => true
  | item :: items, other :: others => item.same other && sameItems items others
  | _, _ => false

/-- Whether two tables have the same entries, in one order. -/
def sameEntries : List (String × Value) → List (String × Value) → Bool
  | [], [] => true
  | (name, value) :: entries, (otherName, other) :: others =>
      name == otherName && value.same other && sameEntries entries others
  | _, _ => false

end

mutual

theorem Value.same_iff : (value other : Value) → (value.same other = true ↔ value = other)
  | value, other => by
    unfold Value.same
    split
    · simp only [beq_iff_eq, Value.text.injEq]
    · simp only [beq_iff_eq, Value.int.injEq]
    · simp only [beq_iff_eq, Value.real.injEq]
    · simp only [beq_iff_eq, Value.bool.injEq]
    · simp only [beq_iff_eq, Value.moment.injEq]
    · next items others => rw [sameItems_iff items others, Value.array.injEq]
    · next entries others => rw [sameEntries_iff entries others, Value.table.injEq]
    · refine iff_of_false Bool.false_ne_true ?_
      rintro rfl
      cases value <;> simp_all

theorem sameItems_iff : (items others : List Value) →
    (sameItems items others = true ↔ items = others)
  | [], [] => by simp [sameItems]
  | [], _ :: _ => by simp [sameItems]
  | _ :: _, [] => by simp [sameItems]
  | item :: items, other :: others => by
    rw [sameItems, Bool.and_eq_true, Value.same_iff item other, sameItems_iff items others,
      List.cons.injEq]

theorem sameEntries_iff : (entries others : List (String × Value)) →
    (sameEntries entries others = true ↔ entries = others)
  | [], [] => by simp [sameEntries]
  | [], _ :: _ => by simp [sameEntries]
  | _ :: _, [] => by simp [sameEntries]
  | (name, value) :: entries, (otherName, other) :: others => by
    rw [sameEntries, Bool.and_eq_true, Bool.and_eq_true, beq_iff_eq, Value.same_iff value other,
      sameEntries_iff entries others, List.cons.injEq, Prod.mk.injEq]

end

instance : DecidableEq Value := fun value other => decidable_of_iff _ (Value.same_iff value other)

/-- The entries of a table; no two have one name. -/
abbrev Entries := List (String × Value)

/-- The value of a name. -/
def Entries.get? (entries : Entries) (name : String) : Option Value :=
  List.lookup name entries

/-- A dotted key. -/
abbrev Key := List String

/-- A key as it is told to a reader: its parts quoted, between parentheses. -/
def Key.text (key : Key) : String :=
  match key with
  | [part] => "(" ++ Text.quoted part ++ ",)"
  | parts => "(" ++ String.intercalate ", " (parts.map Text.quoted) ++ ")"

/-- What is wrong at a place of the text. -/
inductive Flaw where
  | invalidStatement
  | expectedEndOfLine
  | expected (mark : String)
  | invalidCharacter (c : Char)
  | illegalCharacter (c : Char)
  | declaredTwice (key : Key)
  | overwritten
  | unclosedHeader
  | unclosedArrayHeader
  | immutable (key : Key)
  | redefined (key : Key)
  | expectedEquals
  | invalidKey
  | unclosedArray
  | unclosedInlineTable
  | duplicateKey (name : String)
  | unescapedBackslash
  | invalidHex
  | notScalar
  | unterminatedText
  | invalidDate
  | invalidValue
deriving DecidableEq, Repr

def Flaw.message : Flaw → String
  | .invalidStatement => "Invalid statement"
  | .expectedEndOfLine => "Expected newline or end of document after a statement"
  | .expected mark => "Expected " ++ Text.quoted mark
  | .invalidCharacter c => "Found invalid character " ++ Text.quoted c.toString
  | .illegalCharacter c => "Illegal character " ++ Text.quoted c.toString
  | .declaredTwice key => "Cannot declare " ++ key.text ++ " twice"
  | .overwritten => "Cannot overwrite a value"
  | .unclosedHeader => "Expected ']' at the end of a table declaration"
  | .unclosedArrayHeader => "Expected ']]' at the end of an array declaration"
  | .immutable key => "Cannot mutate immutable namespace " ++ key.text
  | .redefined key => "Cannot redefine namespace " ++ key.text
  | .expectedEquals => "Expected '=' after a key in a key/value pair"
  | .invalidKey => "Invalid initial character for a key part"
  | .unclosedArray => "Unclosed array"
  | .unclosedInlineTable => "Unclosed inline table"
  | .duplicateKey name => "Duplicate inline table key " ++ Text.quoted name
  | .unescapedBackslash => "Unescaped '\\' in a string"
  | .invalidHex => "Invalid hex value"
  | .notScalar => "Escaped character is not a Unicode scalar value"
  | .unterminatedText => "Unterminated string"
  | .invalidDate => "Invalid date or datetime"
  | .invalidValue => "Invalid value"

/-- Why reading stops: a flaw where `left` characters are left, or one of the two limits. -/
inductive Stop where
  | broken (flaw : Flaw) (left : Nat)
  | numeralTooLong (digits : Nat)
  | tooDeep
deriving DecidableEq, Repr

/-- A place in a text: at its end, or at a character, told by line and column from one on. -/
inductive Place where
  | endOfText
  | character (line column : Nat)
deriving DecidableEq, Repr

/-- The place behind some characters of a text, of which `left` are left. -/
def Place.behind (passed : List Char) (left : Nat) : Place :=
  if left = 0 then .endOfText
  else .character (passed.count '\n' + 1) ((passed.reverse.takeWhile (· != '\n')).length + 1)

def Place.text : Place → String
  | .endOfText => "end of document"
  | .character line column => s!"line {line}, column {column}"

end LintBridge.Toml
