import LintBridge.Expression.Escape
import LintBridge.Expression.Token

/-!
Templates: quoted texts with fields in curly brackets.

A field holds an expression, perhaps an equals sign that shows it, a conversion behind an
exclamation mark, and a format behind a colon, which is a template of its own. A doubled curly
bracket stands for one, except in a format. The expression ends where one of these marks stands
outside of brackets and quotes.
-/

namespace LintBridge.Expression

namespace Template

/-- What a template is read with: whether backslashes stand for themselves in it, and how the
expressions of its fields are read. -/
structure Reader where
  raw : Bool
  field : List Char → Except Fault Unit

/-- Text up to a field or to the end, whether a doubled bracket ends it, and what stands behind. -/
structure Part where
  text : List Char
  doubled : Bool
  rest : List Char
deriving DecidableEq, Repr

/-- The part in front of a curly bracket. -/
def Part.atBracket (top : Bool) (bracket : Char) (rest : List Char) : Except Fault Part :=
  if top && rest.head? == some bracket then .ok ⟨[bracket], true, rest.drop 1⟩
  else if top && bracket == '}' then .error (.template .singleClosing)
  else .ok ⟨[], false, bracket :: rest⟩

/-- A part with more text in front. -/
def Part.behind (before : List Char) (part : Except Fault Part) : Except Fault Part := do
  let part ← part
  return { part with text := before ++ part.text }

/-- The part at the start of a text. The name of a character is no field, and `named` tells that the
text is inside of one. -/
def takePart (raw top named : Bool) : List Char → Except Fault Part
  | [] => .ok ⟨[], false, []⟩
  | c :: rest =>
      if named then Part.behind [c] (takePart raw top (c != '}') rest)
      else if c = '{' ∨ c = '}' then Part.atBracket top c rest
      else if c ≠ '\\' ∨ raw then Part.behind [c] (takePart raw top false rest)
      else
        match rest with
        | [] => .ok ⟨[c], false, []⟩
        | 'N' :: '{' :: more => Part.behind [c, 'N', '{'] (takePart raw top true more)
        | 'N' :: d :: more => Part.behind [c, 'N', d] (takePart raw top false more)
        | d :: more =>
            if d = '{' ∨ d = '}' then Part.behind [c] (Part.atBracket top d more)
            else Part.behind [c, d] (takePart raw top false more)

/-- Where a scan of an expression stands: the quote that is open and whether it is tripled, and the
open brackets, the last one first. -/
structure Scan where
  quote : Option (Char × Bool)
  opened : List Char
deriving DecidableEq, Repr

/-- The bracket that closes an opening one. -/
def closerOf (opening : Char) : Char :=
  if opening = '(' then ')' else if opening = '[' then ']' else '}'

/-- A scan behind a character outside of quotes. -/
def Scan.behind (s : Scan) (c : Char) : Except TemplateFault Scan :=
  if c = '(' ∨ c = '[' ∨ c = '{' then
    if 200 ≤ s.opened.length then .error .tooManyBrackets
    else .ok { s with opened := c :: s.opened }
  else if c = ')' ∨ c = ']' ∨ c = '}' then
    match s.opened with
    | [] => .error (.unmatched c)
    | opening :: outer =>
        if closerOf opening = c then .ok { s with opened := outer }
        else .error (.mismatched c opening)
  else .ok s

/-- Whether two characters make one comparison. -/
def isComparison (c d : Char) : Bool :=
  d == '=' && (c == '!' || c == '=' || c == '<' || c == '>')

/-- What a scan does at a character: it ends in front of it, or goes on behind it and so many more.
-/
def Scan.step (s : Scan) (c : Char) (rest : List Char) :
    Except TemplateFault (Option (Nat × Scan)) :=
  let isTripled := [c, c].isPrefixOf rest
  if c = '\\' then .error .backslash
  else
    match s.quote with
    | some (quote, tripled) =>
        if c ≠ quote ∨ (tripled ∧ !isTripled) then .ok (some (0, s))
        else .ok (some (if tripled then 2 else 0, { s with quote := none }))
    | none =>
        if c = '\'' ∨ c = '"' then
          .ok (some (if isTripled then 2 else 0, { s with quote := some (c, isTripled) }))
        else if c = '#' then .error .comment
        else if s.opened = [] ∧ rest.head?.any (isComparison c) then .ok (some (1, s))
        else if s.opened = [] ∧ ['!', ':', '}', '='].contains c then .ok none
        else do return some (0, ← s.behind c)

/-- The fault of a scan at the end of the text. -/
def Scan.ended (s : Scan) : TemplateFault :=
  if s.quote.isSome then .unterminated
  else
    match s.opened with
    | opening :: _ => .unmatched opening
    | [] => .expectedClosing

/-- The expression of a field and the text from the mark on that ends it; `skip` characters belong
to it in any case. -/
def Scan.run (s : Scan) (skip : Nat) : List Char → Except TemplateFault (List Char × List Char)
  | [] => .error s.ended
  | c :: rest =>
      match skip with
      | skip + 1 => do
          let (expression, after) ← s.run skip rest
          return (c :: expression, after)
      | 0 => do
          match ← s.step c rest with
          | none => return ([], c :: rest)
          | some (skip, s) =>
              let (expression, after) ← s.run skip rest
              return (c :: expression, after)

/-- Whether an expression is all blanks. -/
def isEmptyExpression (cs : List Char) : Bool :=
  cs.all fun c => c == ' ' || c == '\t' || c == '\n' || c == '\x0c'

/-- Reads the expression of a field, in brackets so that it may span lines; `mark` ends it. -/
def Reader.expression (r : Reader) (cs : List Char) (mark : Option Char) : Except Fault Unit :=
  if isEmptyExpression cs then
    match mark with
    | some '}' => .error (.template .emptyExpression)
    | some mark => .error (.template (.missingExpression mark))
    | none => .error (.template .expectedClosing)
  else r.field ('(' :: cs ++ [')'])

/-- The text behind an equals sign and blanks, if one stands here. -/
def skipEquals : List Char → Except Fault (List Char)
  | '=' :: rest =>
      match rest.dropWhile fun c => c == ' ' || ('\t' ≤ c && c ≤ '\r') with
      | [] => .error (.template .expectedClosing)
      | rest => .ok rest
  | rest => .ok rest

/-- The text behind a conversion, if one stands here. -/
def skipConversion : List Char → Except Fault (List Char)
  | '!' :: [] => .error (.template .expectedClosing)
  | '!' :: c :: rest =>
      if ['s', 'r', 'a'].contains c then .ok rest else .error (.template .badConversion)
  | rest => .ok rest

/-- Reads a field from behind its bracket on, and gives the text behind it; `format` reads a
format. -/
def Reader.readField (r : Reader) (format : List Char → Except Fault (List Char))
    (cs : List Char) : Except Fault (List Char) := do
  let (expression, rest) ← (Scan.run ⟨none, []⟩ 0 cs).mapError .template
  r.expression expression rest.head?
  let rest ← skipEquals rest
  let rest ← skipConversion rest
  let rest ←
    match rest with
    | ':' :: [] => throw (.template .expectedClosing)
    | ':' :: body => format body
    | rest => pure rest
  match rest with
  | '}' :: after => return after
  | _ => throw (.template .expectedClosing)

/-- Checks the escapes of a text. -/
def Reader.checkText (r : Reader) (cs : List Char) : Except Fault Unit :=
  match if r.raw then none else textFault? cs with
  | some fault => .error (.literal fault)
  | none => .ok ()

/-- Reads a template, or the format of a field at a depth, and gives the text behind it: nothing, or
the bracket that ends the field. Each step takes a character, so that `fuel` is at most one more
than the length of the text. -/
def Reader.readFrom (r : Reader) : (fuel depth : Nat) → List Char → Except Fault (List Char)
  | 0, _, cs => .ok cs
  | fuel + 1, depth, cs => do
      let part ← takePart r.raw (depth == 0) false cs
      r.checkText part.text
      if part.doubled then r.readFrom fuel depth part.rest
      else
        match part.rest with
        | '{' :: body =>
            if 2 ≤ depth then throw (.template .tooDeep)
            let rest ← r.readField (r.readFrom fuel (depth + 1)) body
            r.readFrom fuel depth rest
        | rest =>
            if depth ≠ 0 ∧ rest.head? ≠ some '}' then throw (.template .expectedClosing)
            return rest

/-- Reads a template. -/
def Reader.read (r : Reader) (cs : List Char) : Except Fault Unit := do
  let _ ← r.readFrom (cs.length + 1) 0 cs

end Template

end LintBridge.Expression
