import LintBridge.Expression.Basic
import LintBridge.Expression.Token
import Std.Data.HashMap

/-!
Parsers of token sequences, with ordered choice.

A parser that does not match gives the tokens back, and the next alternative is tried. A parser that
finds a fault ends the reading. A careful reading also looks for faults that explain why no
alternative matched; a plain one does without them. What a rule gave at a place may be kept, and
then holds for careful readings as well.

A break of the text is a fault only when a parser comes to it, so the state remembers how many
tokens have been looked at.
-/

namespace LintBridge.Expression

/-- The rules that others refer to. -/
inductive Rule where
  | expression
  | starExpression
  | namedExpression
  | wrongNamedExpression
  | disjunction
  | conjunction
  | inversion
  | bitOr
  | bitXor
  | bitAnd
  | shift
  | sum
  | term
  | factor
  | awaited
  | primary
  | atom
  | starTarget
  | targetAtom
  | targetPrimary
deriving DecidableEq, Hashable, Repr

/-- Whether what a rule gives at a place is kept. -/
def Rule.isKept : Rule → Bool
  | .namedExpression => false
  | .atom => false
  | _ => true

/-- What a parser reads from: the tokens with the break that ends them, whether the reading is
careful, and the reader of the fields of templates. -/
structure Source where
  tokens : Array Token
  stop : Option Break
  careful : Bool
  field : List Char → Except Fault Unit

/-- Where a parser stands: its place, the number of tokens that have been looked at, and what rules
gave at places: nothing, or an expression and the place behind it. -/
structure Progress where
  position : Nat
  seen : Nat
  kept : Std.HashMap (Rule × Nat) (Option (Expression × Nat))

/-- Why a parser gives nothing: it does not match; it does not match and no other alternative of its
rule is to be tried; it found a fault; or it came to the break of the text. -/
inductive Halt where
  | mismatch
  | closed
  | fault (fault : Fault)
  | broken (fault : LexicalFault)

/-- Parsers of token sequences. -/
abbrev Parser := ReaderT Source (ExceptT Halt (StateM Progress))

namespace Parser

variable {α β : Type}

/-- Does not match. -/
def mismatch : Parser α := throw .mismatch

/-- Ends the reading with a fault. -/
def refuse (fault : GrammarFault) : Parser α := throw (.fault (.grammar fault))

/-- Ends a rule: no other alternative of it matches. -/
def close : Parser α := throw .closed

/-! ### Tokens -/

/-- The next token. -/
def peek : Parser Token := do
  let place ← get
  match (← read).tokens[place.position]? with
  | some token =>
      modify fun place => { place with seen := max place.seen (place.position + 1) }
      return token
  | none =>
      match (← read).stop with
      | some stop => throw (.broken stop.fault)
      | none => mismatch

/-- Goes on behind the next token. -/
def advance : Parser Unit :=
  modify fun place => { place with position := place.position + 1 }

/-- The token that was read last. -/
def previous? : Parser (Option Token) := do
  return (← read).tokens[(← get).position - 1]?

/-- A token of a shape. -/
def shape (s : Shape) : Parser Unit := do
  if (← peek).shape = s then advance else mismatch

/-- A mark. -/
def mark (text : String) : Parser Unit := shape (.mark text)

/-- A keyword. -/
def keyword (word : String) : Parser Unit := shape (.keyword word)

/-- A name. -/
def name : Parser (List Char) := do
  match (← peek).shape with
  | .name text => advance; return text
  | _ => mismatch

/-- A number. -/
def number : Parser (List Char) := do
  match (← peek).shape with
  | .number digits => advance; return digits
  | _ => mismatch

/-- A quoted text. -/
def quotation : Parser Quotation := do
  match (← peek).shape with
  | .quotation text => advance; return text
  | _ => mismatch

/-! ### Choice -/

/-- What a parser gives, or nothing if it does not match. -/
def attempt (p : Parser α) : Parser (Option α) := do
  let position := (← get).position
  tryCatch (do return some (← p)) fun
    | .mismatch => do
        modify fun place => { place with position }
        return none
    | halt => throw halt

/-- The first of several alternatives that matches. -/
def firstOf : List (Parser α) → Parser α
  | [] => mismatch
  | p :: rest => do
      let position := (← get).position
      tryCatch p fun
        | .mismatch => do
            modify fun place => { place with position }
            firstOf rest
        | .closed => mismatch
        | halt => throw halt

/-- A parser behind which no other alternative of its rule is tried. -/
def committed (p : Parser α) : Parser α :=
  tryCatch p fun
    | .mismatch => close
    | halt => throw halt

/-- An alternative of careful readings. -/
def careful (p : Parser α) : Parser α := do
  if (← read).careful then p else mismatch

/-- A plain reading inside a careful one. -/
def plainly (p : Parser α) : Parser α :=
  withReader (fun source => { source with careful := false }) p

/-- What a parser would give here, without taking any token. -/
def look (p : Parser α) : Parser (Option α) := do
  let position := (← get).position
  let found ← attempt p
  modify fun place => { place with position }
  return found

/-- Matches where a parser would match. -/
def ahead (p : Parser α) : Parser Unit := do
  if (← look p).isNone then mismatch

/-- Matches where a parser would not match. -/
def notAhead (p : Parser α) : Parser Unit := do
  if (← look p).isSome then mismatch

/-! ### Repetition -/

/-- As many as there are, at most `most`. -/
def upTo : (most : Nat) → Parser α → Parser (List α)
  | 0, _ => return []
  | most + 1, p => do
      match ← attempt p with
      | some a => return a :: (← upTo most p)
      | none => return []

/-- As many as there are. -/
def many (p : Parser α) : Parser (List α) := do
  upTo (← read).tokens.size p

/-- As many as there are, at least one. -/
def several (p : Parser α) : Parser (List α) := do
  let first ← p
  return first :: (← many p)

/-- At least one, with commas between. -/
def separated (p : Parser α) : Parser (List α) := do
  let first ← p
  return first :: (← many (do mark ","; p))

/-- Whether a mark stands here, which is taken then. -/
def isMark (text : String) : Parser Bool := do
  return (← attempt (mark text)).isSome

/-! ### Rules -/

/-- What a rule gives here, unless it is known already. -/
def keep (rule : Rule) (p : Parser Expression) : Parser Expression := do
  let start := (← get).position
  match (← get).kept[(rule, start)]? with
  | some (some (e, position)) =>
      modify fun place => { place with position }
      return e
  | some none => mismatch
  | none =>
      match ← attempt p with
      | some e =>
          modify fun place =>
            { place with kept := place.kept.insert (rule, start) (some (e, place.position)) }
          return e
      | none =>
          modify fun place => { place with kept := place.kept.insert (rule, start) none }
          mismatch

end Parser

/-- How the rules of a grammar refer to each other. -/
abbrev Rules := Rule → Parser Expression

end LintBridge.Expression
