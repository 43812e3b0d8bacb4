import LintBridge.Toml.Value
import LintBridge.Text.Hexadecimal
import LintBridge.Text.Search

/-!
Strings and keys of TOML, and the gaps between the parts of a statement.

A basic string stands between double quotes and has escapes; a literal string stands between single
quotes and has none. Between three quotes of its kind either may span lines: a line feed right
behind the opening quotes does not count, and up to two more quotes may stand before the closing
three.
-/

namespace LintBridge.Toml

/-! ### Gaps -/

/-- Blanks within a line. -/
def isBlank (c : Char) : Bool :=
  c == ' ' || c == '\t'

/-- Skips the blanks of a line. -/
def skipBlanks (cs : List Char) : List Char :=
  cs.dropWhile isBlank

/-- Skips blanks and line feeds. -/
def skipBlankLines (cs : List Char) : List Char :=
  cs.dropWhile fun c => isBlank c || c == '\n'

/-- Control characters, which neither text nor comments may hold; the tab is none of them. -/
def isControl (c : Char) : Bool :=
  (c.toNat < 0x20 && c != '\t') || c.toNat == 0x7F

/-- Control characters other than the line feed. -/
def isControlInLine (c : Char) : Bool :=
  isControl c && c != '\n'

/-- Refuses the first of the characters that is in a class; `behind` follows them. -/
def refuseIn (isRefused : Char → Bool) (cs : List Char) (behind : Nat) : Except Stop Unit :=
  match cs.dropWhile (!isRefused ·) with
  | [] => .ok ()
  | c :: rest => .error (.broken (.invalidCharacter c) (rest.length + 1 + behind))

/-- Skips a comment, up to the end of its line. -/
def skipComment (cs : List Char) : Except Stop (List Char) :=
  match cs with
  | '#' :: rest => do
      let after := rest.dropWhile (· != '\n')
      refuseIn isControl (rest.takeWhile (· != '\n')) after.length
      return after
  | _ => .ok cs

/-- Skips blank lines and comments. Each round but the last one skips something, so `fuel` is at
most the length of the text. -/
def skipGaps : (fuel : Nat) → List Char → Except Stop (List Char)
  | 0, cs => .ok cs
  | fuel + 1, cs => do
      let after ← skipComment (skipBlankLines cs)
      if after.length = cs.length then return after else skipGaps fuel after

/-! ### Strings -/

/-- The character behind a backslash and one other character. -/
def escaped? : Char → Option Char
  | 'b' => some '\x08'
  | 't' => some '\t'
  | 'n' => some '\n'
  | 'f' => some '\x0c'
  | 'r' => some '\r'
  | '"' => some '"'
  | '\\' => some '\\'
  | _ => none

/-- A code point written with `width` hexadecimal digits. -/
def readCodePoint (width : Nat) (cs : List Char) : Except Stop (List Char × List Char) :=
  let digits := cs.take width
  match if digits.length = width then Text.hexValue? digits else none with
  | none => .error (.broken .invalidHex cs.length)
  | some n =>
      if n.isValidChar then .ok ([Char.ofNat n], cs.drop width)
      else .error (.broken .notScalar (cs.length - width))

/-- What an escape stands for, from behind its backslash on. In a string that spans lines, a
backslash at the end of a line takes away the line's end and the blanks that follow it. -/
def readEscape (multiline : Bool) : List Char → Except Stop (List Char × List Char)
  | [] => .error (.broken .unescapedBackslash 0)
  | c :: rest =>
      if multiline && (isBlank c || c == '\n') then
        match if c = '\n' then '\n' :: rest else skipBlanks rest with
        | [] => .ok ([], [])
        | '\n' :: after => .ok ([], skipBlankLines after)
        | after => .error (.broken .unescapedBackslash after.length)
      else if c = 'u' then readCodePoint 4 rest
      else if c = 'U' then readCodePoint 8 rest
      else
        match escaped? c with
        | some d => .ok ([d], rest)
        | none => .error (.broken .unescapedBackslash rest.length)

/-- The content of a basic string, from behind its opening quote on to behind the closing one. Each
step takes at least one character, so `fuel` is at most the length of the text. -/
def readBasic (multiline : Bool) : (fuel : Nat) → List Char → Except Stop (List Char × List Char)
  | 0, cs => .error (.broken .unterminatedText cs.length)
  | _ + 1, [] => .error (.broken .unterminatedText 0)
  | fuel + 1, '"' :: rest =>
      if multiline then
        match rest with
        | '"' :: '"' :: after => .ok ([], after)
        | _ => do
            let (content, after) ← readBasic multiline fuel rest
            return ('"' :: content, after)
      else .ok ([], rest)
  | fuel + 1, '\\' :: rest => do
      let (piece, after) ← readEscape multiline rest
      let (content, after) ← readBasic multiline fuel after
      return (piece ++ content, after)
  | fuel + 1, c :: rest =>
      if (if multiline then isControlInLine c else isControl c) then
        .error (.broken (.illegalCharacter c) (rest.length + 1))
      else do
        let (content, after) ← readBasic multiline fuel rest
        return (c :: content, after)

/-- The content of a literal string, up to its closing mark. -/
def readLiteral (mark : List Char) (isRefused : Char → Bool) (cs : List Char) :
    Except Stop (List Char × List Char) :=
  match Text.breakAt? mark cs with
  | none => .error (.broken (.expected (String.ofList mark)) 0)
  | some (content, after) => do
      refuseIn isRefused content (mark.length + after.length)
      return (content, after)

/-- Up to two quotes that belong to the content although they stand behind the closing three. -/
def takeMoreQuotes (quote : Char) (content after : List Char) : List Char × List Char :=
  match after with
  | c :: d :: rest =>
      if c = quote then
        if d = quote then (content ++ [quote, quote], rest) else (content ++ [quote], d :: rest)
      else (content, after)
  | [c] => if c = quote then (content ++ [quote], []) else (content, after)
  | [] => (content, after)

/-- The text without a line feed at its start. -/
def dropLineFeed : List Char → List Char
  | '\n' :: rest => rest
  | cs => cs

/-- A string that spans lines, from behind its three opening quotes on. -/
def readMultiline (quote : Char) (cs : List Char) : Except Stop (List Char × List Char) := do
  let body := dropLineFeed cs
  let (content, after) ←
    if quote = '"' then readBasic true (body.length + 1) body
    else readLiteral [quote, quote, quote] isControlInLine body
  return takeMoreQuotes quote content after

/-- A string of one line, from behind its opening quote on. -/
def readLine (quote : Char) (cs : List Char) : Except Stop (List Char × List Char) :=
  if quote = '"' then readBasic false (cs.length + 1) cs
  else readLiteral [quote] isControl cs

/-- A string, from its opening quote on. -/
def readText (quote : Char) (rest : List Char) : Except Stop (List Char × List Char) :=
  match rest with
  | c :: d :: after =>
      if c = quote && d = quote then readMultiline quote after else readLine quote rest
  | _ => readLine quote rest

/-! ### Keys -/

/-- Characters of a key that needs no quotes. -/
def isBare (c : Char) : Bool :=
  c.isAlphanum || c == '-' || c == '_'

/-- Characters that a key can start with. -/
def startsKey (c : Char) : Bool :=
  isBare c || c == '"' || c == '\''

/-- One part of a key. -/
def readKeyPart (cs : List Char) : Except Stop (String × List Char) :=
  match cs with
  | [] => .error (.broken .invalidKey 0)
  | c :: rest =>
      if isBare c then .ok (String.ofList (cs.takeWhile isBare), cs.dropWhile isBare)
      else if c = '"' || c = '\'' then do
        let (content, after) ← readLine c rest
        return (String.ofList content, after)
      else .error (.broken .invalidKey cs.length)

/-- A dotted key and the blanks behind it. Every part but the first follows a dot, so `fuel` is at
most the length of the text. -/
def readKey : (fuel : Nat) → List Char → Except Stop (Key × List Char)
  | 0, cs => .error (.broken .invalidKey cs.length)
  | fuel + 1, cs => do
      let (part, after) ← readKeyPart cs
      match skipBlanks after with
      | '.' :: rest => do
          let (parts, rest) ← readKey fuel (skipBlanks rest)
          return (part :: parts, rest)
      | rest => return ([part], rest)

end LintBridge.Toml
