import LintBridge.Expression.Numeral
import LintBridge.Expression.Token
import LintBridge.Text.Letter
import LintBridge.Text.Newline

/-!
Splitting a text into the tokens of an expression.

Blanks separate tokens and say nothing otherwise, except in front of a line: there they indent it,
unless a bracket is open or the line holds no token. Inside brackets lines do not end. A number sign
starts a comment, and a backslash at the end of a line joins the next one to it.
-/

namespace LintBridge.Expression

/-- Where a lexer stands: its line, the open brackets with their lines, the innermost first, whether
it is at the start of a line, whether the line holds no token, whether it had to look here to end
the last token, and the columns of the lines that the present one is indented under, the last one
first. A column is counted twice, with a tab as far as the next multiple of eight and with a tab as
one. -/
structure Lexer where
  line : Nat
  opened : List (Char × Nat)
  fresh : Bool
  blank : Bool
  looked : Bool
  indents : List (Nat × Nat)
deriving DecidableEq, Repr

namespace Lexer

/-- The start of a text. -/
def start : Lexer := ⟨1, [], true, false, false, []⟩

/-- The most brackets that may be open at once. -/
def maxDepth : Nat := 200

/-- A fault where the lexer stands. -/
def broken (l : Lexer) (fault : LexicalFault) : Break :=
  ⟨fault, l.opened.head?, false⟩

/-- The break at the end of a text that should go on. -/
def ended (l : Lexer) : Break :=
  match l.opened with
  | (bracket, _) :: _ => l.broken (.neverClosed bracket)
  | [] => l.broken .endedEarly

/-- The text behind a backslash that joins two lines. -/
def joined (l : Lexer) : List Char → Except Break (List Char)
  | '\n' :: [] => .error l.ended
  | '\n' :: rest => .ok rest
  | _ => .error (l.broken .badContinuation)

/-! ### The start of a line -/

/-- How far a line is indented, by both counts: the first backslash that joins it to the next one
fixes the columns. -/
structure Indent where
  column : Nat
  plain : Nat
  fixed : Option Nat

/-- Measures the blanks in front of a line. -/
def measure (l : Lexer) (i : Indent) : List Char → Except Break (Lexer × Indent × List Char)
  | ' ' :: rest => measure l { i with column := i.column + 1, plain := i.plain + 1 } rest
  | '\t' :: rest =>
      measure l { i with column := (i.column / 8 + 1) * 8, plain := i.plain + 1 } rest
  | '\x0c' :: rest => measure l { i with column := 0, plain := 0 } rest
  | '\\' :: '\n' :: [] => .error l.ended
  | '\\' :: '\n' :: c :: rest =>
      let fixed := i.fixed.or (if i.column = 0 then none else some i.column)
      measure { l with line := l.line + 1 } { i with fixed } (c :: rest)
  | '\\' :: _ => .error (l.broken .badContinuation)
  | rest => .ok (l, i, rest)

/-- The indents under which a line with columns stands, and the tokens that tell of the change. -/
def align (l : Lexer) (columns : Nat × Nat) : Except Break (Lexer × List Shape) :=
  let (above, plainAbove) := l.indents.head?.getD (0, 0)
  let (column, plain) := columns
  if column = above then
    if plain = plainAbove then .ok (l, []) else .error (l.broken .mixedIndent)
  else if above < column then
    if plainAbove < plain then .ok ({ l with indents := columns :: l.indents }, [.indent])
    else .error (l.broken .mixedIndent)
  else
    let indents := l.indents.dropWhile fun outer => column < outer.1
    let (above, plainAbove) := indents.head?.getD (0, 0)
    if column ≠ above then .error (l.broken .badDedent)
    else if plain ≠ plainAbove then .error (l.broken .mixedIndent)
    else .ok ({ l with indents }, List.replicate (l.indents.length - indents.length) .dedent)

/-- Reads the start of a line: the tokens of its indent, and the text behind it. -/
def startLine (l : Lexer) (cs : List Char) : Except Break (Lexer × List Shape × List Char) := do
  let (l, i, rest) ← l.measure ⟨0, 0, none⟩ cs
  let blank := rest.head?.any fun c => c == '#' || c == '\n'
  let l := { l with fresh := false, blank }
  if blank || l.opened ≠ [] then return (l, [], rest)
  else
    let (l, shapes) ← l.align (i.fixed.getD i.column, i.fixed.getD i.plain)
    return (l, shapes, rest)

/-! ### Tokens -/

/-- A token that is read here. -/
def token (l : Lexer) (shape : Shape) : Token :=
  ⟨shape, l.line, l.opened.length⟩

/-- What a lexer does with the start of a text: it reads a token or nothing, and goes on behind. -/
abbrev Step := Except Break (Option Token × Lexer × List Char)

/-- A quoted text up to the mark that closes it, and the text behind. A text that is not closed is
told with the number of lines that it goes on for. -/
def takeQuoted (mark : List Char) (passed : Nat) : List Char → Except Nat (List Char × List Char)
  | [] => .error passed
  | c :: rest =>
      if mark.isPrefixOf (c :: rest) then .ok ([], (c :: rest).drop mark.length)
      else if c = '\\' then
        match rest with
        | [] => .error passed
        | d :: more => do
            let line := if d = '\n' ∧ more ≠ [] then 1 else 0
            let (content, after) ← takeQuoted mark (passed + line) more
            return (c :: d :: content, after)
      else if c = '\n' ∧ mark.length = 1 then .error passed
      else do
        let line := if c = '\n' ∧ rest ≠ [] then 1 else 0
        let (content, after) ← takeQuoted mark (passed + line) rest
        return (c :: content, after)

/-- Reads a quoted text with the letters in front of it, from its opening quote on. -/
def quotation (l : Lexer) (letters : List Char) (quote : Char) (rest : List Char) : Step :=
  let tripled := [quote, quote].isPrefixOf rest
  let mark := if tripled then [quote, quote, quote] else [quote]
  match takeQuoted mark 0 (if tripled then rest.drop 2 else rest) with
  | .error passed => .error (l.broken (.unterminated tripled (l.line + passed)))
  | .ok (content, after) =>
      let letters := letters.map Char.toLower
      let text : Quotation :=
        ⟨letters.contains 'b', letters.contains 'r', letters.contains 'f', content⟩
      .ok (some (l.token (.quotation text)), { l with line := l.line + content.count '\n' }, after)

/-- The letters that may stand in front of a quoted text, in lower case. -/
def quotationLetters : List (List Char) :=
  [[], ['b'], ['r'], ['u'], ['f'], ['b', 'r'], ['r', 'b'], ['f', 'r'], ['r', 'f']]

/-- The letters in front of a quoted text at the start of a text, its quote, and the text behind. -/
def quotationStart? (cs : List Char) : Option (List Char × Char × List Char) :=
  let letters := cs.takeWhile Char.isAlpha
  if quotationLetters.contains (letters.map Char.toLower) then
    match cs.drop letters.length with
    | '\'' :: rest => some (letters, '\'', rest)
    | '"' :: rest => some (letters, '"', rest)
    | _ => none
  else none

/-- Characters of words, before it is known whether a word is a name. -/
def isWordLike (c : Char) : Bool :=
  c.isAlphanum || c == '_' || 0x80 ≤ c.toNat

/-- The first character that keeps a word from being a name. -/
def foreign? : List Char → Option Char
  | [] => none
  | c :: rest => if Text.startsName c then rest.find? (!Text.continuesName ·) else some c

/-- Reads a word. -/
def word (l : Lexer) (cs : List Char) : Step :=
  let word := cs.takeWhile isWordLike
  match foreign? word with
  | some c => .error (l.broken (.badCharacter c))
  | none => .ok (some (l.token (.ofWord word)), l, cs.dropWhile isWordLike)

/-- Reads a scanned number. -/
def number (l : Lexer) : Scanned → Step
  | .ok (digits, rest) => .ok (some (l.token (.number digits)), l, rest)
  | .error fault => .error (l.broken fault)

/-- Whether a bracket closes another one. -/
def closes (closing opening : Char) : Bool :=
  [('(', ')'), ('[', ']'), ('{', '}')].contains (opening, closing)

/-- The lexer behind a mark, which may be a bracket. -/
def behindMark (l : Lexer) (c : Char) : Except Break Lexer :=
  if ['(', '[', '{'].contains c then
    if maxDepth ≤ l.opened.length then .error (l.broken .tooManyBrackets)
    else .ok { l with opened := (c, l.line) :: l.opened }
  else if [')', ']', '}'].contains c then
    match l.opened with
    | [] => .error (l.broken (.unmatched c))
    | (opening, line) :: outer =>
        if closes c opening then .ok { l with opened := outer }
        else
          let openedOn := if line = l.line then none else some line
          .error (l.broken (.mismatched c opening openedOn))
  else if c.toNat < 0x20 ∨ c.toNat = 0x7F then .error (l.broken (.badCharacter c))
  else .ok l

/-- Reads a mark. -/
def mark (l : Lexer) (c : Char) (rest : List Char) : Step := do
  let (mark, after) := takeMark c rest
  let l ← if mark.length = 1 then l.behindMark c else .ok l
  return (some (l.token (.mark mark)), l, after)

/-- Reads the end of a line. -/
def lineEnd (l : Lexer) (rest : List Char) : Step :=
  let token := if l.blank || l.opened ≠ [] then none else some (l.token .lineEnd)
  .ok (token, { l with line := l.line + 1, fresh := true, blank := false }, rest)

/-- Reads one token, a blank, a comment or the end of a line. -/
def step (l : Lexer) (c : Char) (rest : List Char) : Step :=
  if c = ' ' ∨ c = '\t' ∨ c = '\x0c' then .ok (none, l, rest)
  else if c = '#' then .ok (none, l, rest.dropWhile (· != '\n'))
  else if c = '\n' then l.lineEnd rest
  else if let some (letters, quote, rest) := quotationStart? (c :: rest) then
    l.quotation letters quote rest
  else if c.isAlpha ∨ c = '_' ∨ 0x80 ≤ c.toNat then l.word (c :: rest)
  else if c.isDigit then l.number (takeNumber (c :: rest))
  else if c = '.' ∧ rest.head?.any Char.isDigit then l.number (takeFraction [] rest)
  else if c = '\\' then do
    let rest ← l.joined rest
    return (none, { l with line := l.line + 1 }, rest)
  else l.mark c rest

/-- The tokens of a text. Each step takes a character or reads the start of a line, so that `fuel`
is twice the length of the text at most. -/
def run : (fuel : Nat) → Lexer → List Char → Lexed
  | 0, _, _ => ⟨[], none⟩
  | fuel + 1, l, cs =>
      if l.fresh then
        match l.startLine cs with
        | .error stop => ⟨[], some stop⟩
        | .ok (l, shapes, rest) =>
            let lexed := run fuel l rest
            { lexed with tokens := shapes.map l.token ++ lexed.tokens }
      else
        match cs with
        | [] =>
            if l.opened = [] then ⟨[l.token .finish], none⟩
            else ⟨[], some { l.ended with met := l.looked }⟩
        | c :: rest =>
            match l.step c rest with
            | .error stop => ⟨[], some stop⟩
            | .ok (token, l, after) =>
                let lexed := run fuel { l with looked := token.any (·.shape.isOpenEnded) } after
                { lexed with tokens := token.toList ++ lexed.tokens }

end Lexer

/-- The tokens of a text; line feeds, returns and both together end its lines alike. -/
def lex (cs : List Char) : Lexed :=
  let text := Text.unifyNewlines cs
  Lexer.run (2 * text.length + 2) .start text

end LintBridge.Expression
