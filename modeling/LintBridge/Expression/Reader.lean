import LintBridge.Expression.Call
import LintBridge.Expression.Lexer
import LintBridge.Expression.Parameter
import LintBridge.Expression.Template

/-!
Reading a text as an expression, or telling why it is none.

A plain reading comes first. Only if it does not match, a careful one looks for the reason, and if
that finds none, the text is unreadable. A fault of the order of tokens gives way to certain faults
of characters that stand further on, even if no reading came to them.
-/

namespace LintBridge.Expression

/-! ### Quoted texts -/

/-- Checks a quoted text that is no template. -/
def Quotation.checkContent (text : Quotation) : Except Fault Unit :=
  let fault :=
    if text.template then none
    else if text.bytes then
      if text.content.all isAscii then
        if text.raw then none else bytesFault? 0 text.content
      else some .notAscii
    else if text.raw then none
    else textFault? text.content
  match fault with
  | some fault => .error (.literal fault)
  | none => .ok ()

/-- Checks quoted texts that stand side by side: none are bytes, or all are. `before` tells what the
ones before are. -/
def checkQuotations (field : List Char → Except Fault Unit) (before : Option Bool) :
    List Quotation → Except Fault Unit
  | [] => .ok ()
  | text :: rest => do
      text.checkContent
      if before.any (· != text.bytes) then throw (.literal .mixedBytes)
      if text.template then Template.Reader.read ⟨text.raw, field⟩ text.content
      checkQuotations field (some text.bytes) rest

/-- Quoted texts side by side: a template if one of them is, a text or bytes otherwise. -/
def quotations : Parser Expression := do
  let texts ← Parser.several Parser.quotation
  match checkQuotations (← read).field none texts with
  | .ok _ => return if texts.any (·.template) then .other .template else .constant .text
  | .error fault => throw (.fault fault)

/-! ### Rules -/

/-- What a rule reads, where `self` are the rules that it refers to. -/
def Grammar.body (self : Rules) : Rule → Parser Expression
  | .expression => expression self (function self)
  | .starExpression => starExpression self
  | .namedExpression => namedExpression self
  | .wrongNamedExpression => wrongNamedExpression self (untargetable self)
  | .disjunction => connected (self .conjunction) (Parser.keyword "or")
  | .conjunction => connected (self .inversion) (Parser.keyword "and")
  | .inversion => inversion self (comparison self)
  | .bitOr => marked self .bitXor ["|"]
  | .bitXor => marked self .bitAnd ["^"]
  | .bitAnd => marked self .shift ["&"]
  | .shift => marked self .sum ["<<", ">>"]
  | .sum => sum self
  | .term => marked self .factor ["*", "/", "//", "%", "@"]
  | .factor => factor self
  | .awaited => awaited self
  | .primary => primary self (generator self) (arguments self)
  | .atom => atom self quotations
  | .starTarget => starTarget self
  | .targetAtom => targetAtom self
  | .targetPrimary => targetPrimary self (generator self) (arguments self)

/-- The rules, down to a depth. -/
def rules : (depth : Nat) → Rules
  | 0, _ => Parser.mismatch
  | depth + 1, rule =>
      let body := Grammar.body (rules depth) rule
      if rule.isKept then Parser.keep rule body else body

/-- How deep rules may refer to each other while so many tokens are read: each rule refers to fewer
than thirty others before one takes a token. -/
def depthFor (tokens : Nat) : Nat :=
  30 * (tokens + 2)

/-- What a text is read as: expressions, or a field of a template. -/
inductive Goal where
  | expressions
  | field
deriving DecidableEq, Repr

/-- Reads a whole text. Behind a field there may be anything. -/
def Goal.parser (self : Rules) : Goal → Parser Expression
  | .field => Grammar.starExpressions self
  | .expressions => do
      let e ← Grammar.row (self .expression)
      let _ ← Parser.many (Parser.shape .lineEnd)
      Parser.shape .finish
      return e

/-! ### Readings -/

/-- A fault that a reading found which has seen so many tokens, or the fault of characters further
on that it gives way to. Only an unreadable text gives way to a break that the last token met. -/
def Lexed.fault (lexed : Lexed) (seen : Nat) (fault : Fault) : Fault :=
  match lexed.stop with
  | none => fault
  | some stop =>
      if stop.fault.isLoud then .lexical stop.fault
      else if stop.met ∧ seen = lexed.tokens.length ∧ fault ≠ .grammar .unreadable then fault
      else
        match stop.opened with
        | none => fault
        | some (bracket, line) =>
            if lexed.tokens[seen - 1]?.any (line < ·.line) then .lexical (.neverClosed bracket)
            else fault

/-- Reads tokens: plainly first, and carefully if that does not match. -/
def Lexed.read (lexed : Lexed) (goal : Goal) (field : List Char → Except Fault Unit) :
    Except Fault Expression :=
  let parser := goal.parser (rules (depthFor lexed.tokens.length))
  let reading (careful : Bool) (seen : Nat) : Except Halt Expression × Progress :=
    parser ⟨lexed.tokens.toArray, lexed.stop, careful, field⟩ ⟨0, seen, ∅⟩
  match reading false 0 with
  | (.ok e, _) => .ok e
  | (.error (.broken fault), _) => .error (.lexical fault)
  | (.error (.fault fault), place) => .error (lexed.fault place.seen fault)
  | (.error _, place) =>
      match reading true place.seen with
      | (.error (.broken fault), _) => .error (.lexical fault)
      | (.error (.fault fault), place) => .error (lexed.fault place.seen fault)
      | (_, careful) =>
          if lexed.tokens[place.seen - 1]?.any (·.shape = .indent) then
            .error (.grammar .unexpectedIndent)
          else .error (lexed.fault careful.seen (.grammar .unreadable))

/-- A fault in a field, as the template tells it. -/
def Fault.ofField (fault : Fault) : Fault :=
  match fault with
  | .lexical inner => if inner.isLoud then fault else .inTemplate fault
  | _ => .inTemplate fault

/-- Reads a field of a template. Fields of templates inside are shorter, so that `fuel` is at most
the length of the text. -/
def readField : (fuel : Nat) → List Char → Except Fault Unit
  | 0, _ => .ok ()
  | fuel + 1, cs =>
      match (lex cs).read .field (readField fuel) with
      | .ok _ => .ok ()
      | .error fault => .error fault.ofField

/-- The expression that a text is. -/
def ofText (cs : List Char) : Except Fault Expression :=
  (lex cs).read .expressions (readField cs.length)

end LintBridge.Expression
