import LintBridge.Json
import LintBridge.Decimal.Integer
import LintBridge.Decimal.Numeral
import LintBridge.Text.Half
import LintBridge.Text.Hexadecimal

/-!
Reading the first JSON document of a text.

A reader takes the characters that are left and gives back what it read with the characters left
after it. An error carries how many characters were left where it lies, so that its position follows
from the length of the text alone.

Four things go beyond the strict format: `NaN`, `Infinity` and `-Infinity` are numbers, half a
surrogate pair may stand in a string, a whole number has at most `maxDigits` digits, and documents
nest at most `maxDepth` deep.
-/

namespace LintBridge.Json

/-- What is wrong at a place of the text. -/
inductive Flaw where
  | expectingValue
  | expectingComma
  | expectingColon
  | expectingName
  | unterminatedString
  | controlCharacter
  | badEscape
  | badUnicodeEscape
deriving DecidableEq, Repr

def Flaw.message : Flaw → String
  | .expectingValue => "Expecting value"
  | .expectingComma => "Expecting ',' delimiter"
  | .expectingColon => "Expecting ':' delimiter"
  | .expectingName => "Expecting property name enclosed in double quotes"
  | .unterminatedString => "Unterminated string starting at"
  | .controlCharacter => "Invalid control character at"
  | .badEscape => "Invalid \\escape"
  | .badUnicodeEscape => "Invalid \\uXXXX escape"

/-- The two kinds of document that hold others. -/
inductive Container where
  | array
  | object
deriving DecidableEq, Repr

/-- Why reading stops, and where, by the number of characters left. -/
inductive Stop where
  | broken (flaw : Flaw) (left : Nat)
  | numeralTooLong (digits : Nat)
  | tooDeep (container : Container)
deriving DecidableEq, Repr

/-- What a reader gives: a value and the characters left, or a stop. -/
abbrev Reading (α : Type) := Except Stop (α × List Char)

/-- How deep documents may nest. -/
def maxDepth : Nat := 980

/-! ### Tokens -/

/-- The white space between tokens. -/
def isGap (c : Char) : Bool :=
  c == ' ' || c == '\t' || c == '\n' || c == '\r'

/-- Skips the white space between tokens. -/
def skipGap (cs : List Char) : List Char :=
  cs.dropWhile isGap

/-- The character behind a backslash and one other character. -/
def escaped? : Char → Option Char
  | '"' => some '"'
  | '\\' => some '\\'
  | '/' => some '/'
  | 'b' => some '\x08'
  | 'f' => some '\x0c'
  | 'n' => some '\n'
  | 'r' => some '\r'
  | 't' => some '\t'
  | _ => none

/-- Whether a code unit is the first half of a surrogate pair. -/
def isHighSurrogate (n : Nat) : Bool := 0xD800 ≤ n && n ≤ 0xDBFF
/-- Whether a code unit is the second half of a surrogate pair. -/
def isLowSurrogate (n : Nat) : Bool := 0xDC00 ≤ n && n ≤ 0xDFFF

/-- The code point of a surrogate pair. -/
def joinSurrogates (high low : Nat) : Nat :=
  0x10000 + (high - 0xD800) * 0x400 + (low - 0xDC00)

/-- What a string is made of: a character, or half of a surrogate pair. -/
inductive Piece where
  | char (c : Char)
  | half (unit : Nat)

/-- The character that a piece is, or the stand-in for its half. -/
def Piece.shown : Piece → Char
  | .char c => c
  | .half unit => Text.Half.standIn unit

def Piece.isChar : Piece → Bool
  | .char _ => true
  | .half _ => false

/-- The piece that a code unit is. -/
def Piece.ofUnit (n : Nat) : Piece :=
  if isHighSurrogate n || isLowSurrogate n then .half n else .char (Char.ofNat n)

/-- The content of a string. -/
abbrev Content := List Piece

/-- What a string goes on with: its closing quote, or a piece with the text behind it. -/
inductive StringPart where
  | close (rest : List Char)
  | piece (p : Piece) (rest : List Char)

/-- What follows the first half of a surrogate pair: the second half written as an escape, which
makes a character with it, or anything else, which leaves the half alone. -/
def readSecondHalf (high : Nat) (cs : List Char) : Except Stop StringPart :=
  match cs with
  | '\\' :: 'u' :: a :: b :: c :: d :: e :: rest =>
      match Text.hexValue? [a, b, c, d] with
      | none => .error (.broken .badUnicodeEscape (rest.length + 6))
      | some low =>
          if isLowSurrogate low then
            .ok (.piece (.char (Char.ofNat (joinSurrogates high low))) (e :: rest))
          else .ok (.piece (.half high) cs)
  | _ => .ok (.piece (.half high) cs)

/-- The next part of a string. `opening` is the number of characters left at its opening quote. A
Unicode escape must not be the last thing of the text. -/
def readStringPart (opening : Nat) : List Char → Except Stop StringPart
  | [] => .error (.broken .unterminatedString opening)
  | '"' :: rest => .ok (.close rest)
  | '\\' :: [] => .error (.broken .unterminatedString opening)
  | '\\' :: 'u' :: a :: b :: c :: d :: e :: rest =>
      match Text.hexValue? [a, b, c, d] with
      | none => .error (.broken .badUnicodeEscape (rest.length + 6))
      | some n =>
          if isHighSurrogate n then readSecondHalf n (e :: rest)
          else .ok (.piece (.ofUnit n) (e :: rest))
  | '\\' :: 'u' :: rest => .error (.broken .badUnicodeEscape (rest.length + 1))
  | '\\' :: c :: rest =>
      match escaped? c with
      | some d => .ok (.piece (.char d) rest)
      | none => .error (.broken .badEscape (rest.length + 2))
  | c :: rest =>
      if c.toNat ≤ 0x1F then .error (.broken .controlCharacter (rest.length + 1))
      else .ok (.piece (.char c) rest)

theorem readSecondHalf_length_le {high : Nat} {cs rest : List Char} {p : Piece}
    (h : readSecondHalf high cs = .ok (.piece p rest)) : rest.length ≤ cs.length := by
  unfold readSecondHalf at h
  split at h
  · split at h
    · cases h
    · split at h <;> cases h <;> simp
  · cases h; simp

/-- Reading a piece of a string uses the text up. -/
theorem readStringPart_length_lt {opening : Nat} {cs rest : List Char} {p : Piece}
    (h : readStringPart opening cs = .ok (.piece p rest)) : rest.length < cs.length := by
  unfold readStringPart at h
  split at h
  · cases h
  · cases h
  · cases h
  · split at h
    · cases h
    · split at h
      · have := readSecondHalf_length_le h
        simp at this ⊢; omega
      · cases h; simp
  · cases h
  · split at h <;> cases h
    simp only [List.length_cons]; omega
  · split at h <;> cases h
    simp

/-- The rest of a string, from behind its opening quote on. -/
def readString (opening : Nat) (cs : List Char) : Reading Content :=
  match h : readStringPart opening cs with
  | .error stop => .error stop
  | .ok (.close rest) => .ok ([], rest)
  | .ok (.piece p rest) =>
      have := readStringPart_length_lt h
      match readString opening rest with
      | .error stop => .error stop
      | .ok (content, rest) => .ok (p :: content, rest)
termination_by cs.length

/-- The text of a content, with stand-ins for halves of surrogate pairs. -/
def Content.text (content : Content) : String :=
  String.ofList (content.map Piece.shown)

/-- The document that a content stands for. -/
def ofContent (content : Content) : Json :=
  if content.all Piece.isChar then .str content.text else .brokenStr content.text

/-! ### Numbers and words -/

/-- The digits of a whole number: a zero alone, or digits that do not start with one. -/
def takeWhole : List Char → List Char × List Char
  | '0' :: rest => (['0'], rest)
  | cs => (cs.takeWhile Char.isDigit, cs.dropWhile Char.isDigit)

/-- A point and at least one digit, or nothing. -/
def takeFraction : List Char → List Char × List Char
  | '.' :: rest =>
      if rest.head?.any Char.isDigit then
        (rest.takeWhile Char.isDigit, rest.dropWhile Char.isDigit)
      else ([], '.' :: rest)
  | cs => ([], cs)

/-- A number. A numeral without fraction and exponent is a whole number. -/
def readNumber (cs : List Char) : Reading Json :=
  let negative := cs.head? = some '-'
  let (whole, afterWhole) := takeWhole (if negative then cs.drop 1 else cs)
  let (fraction, afterFraction) := takeFraction afterWhole
  let (exponent, rest) := Decimal.takeExponent afterFraction
  if whole = [] then .error (.broken .expectingValue cs.length)
  else if rest.length = afterWhole.length then
    if Decimal.maxDigits < whole.length then .error (.numeralTooLong whole.length)
    else
      let size := Decimal.digitsValue whole
      .ok (.int (if negative then -(size : Int) else size), rest)
  else
    .ok (.real (Decimal.Numeral.toBinary64 ⟨negative, whole, fraction, exponent⟩), rest)

/-- The documents that are spelled with one word. -/
def wordDocuments : List (List Char × Json) :=
  [ ("null".toList, .null),
    ("true".toList, .bool true),
    ("false".toList, .bool false),
    ("NaN".toList, .real .nan),
    ("Infinity".toList, .real (.infinity false)),
    ("-Infinity".toList, .real (.infinity true)) ]

/-- A word that the text starts with. -/
def readWord? (cs : List Char) : Option (Json × List Char) :=
  wordDocuments.findSome? fun (word, document) => (word.isPrefixOf? cs).map (document, ·)

/-- A document that holds no other. -/
def readScalar (cs : List Char) : Reading Json :=
  match cs with
  | '"' :: rest =>
      match readString cs.length rest with
      | .ok (content, rest) => .ok (ofContent content, rest)
      | .error stop => .error stop
  | _ =>
      match readWord? cs with
      | some found => .ok found
      | none => readNumber cs

/-! ### Documents

The fuel bounds the number of nested and following documents; `read` gives more than any text can
use up. -/

mutual

/-- A document, `depth` levels of nesting being left to it. -/
def readValue : (fuel depth : Nat) → List Char → Reading Json
  | 0, _, cs => .error (.broken .expectingValue cs.length)
  | _ + 1, 0, '[' :: _ => .error (.tooDeep .array)
  | _ + 1, 0, '{' :: _ => .error (.tooDeep .object)
  | fuel + 1, depth + 1, '[' :: rest =>
      match skipGap rest with
      | ']' :: rest => .ok (.arr [], rest)
      | items =>
          match readItems fuel depth items with
          | .ok (values, rest) => .ok (.arr values, rest)
          | .error stop => .error stop
  | fuel + 1, depth + 1, '{' :: rest =>
      match skipGap rest with
      | '}' :: rest => .ok (.obj [], rest)
      | members =>
          match readMembers fuel depth members with
          | .ok (values, rest) => .ok (.obj values, rest)
          | .error stop => .error stop
  | _ + 1, _, cs => readScalar cs

/-- The items of an array, from one of them on to behind the closing bracket. -/
def readItems : (fuel depth : Nat) → List Char → Reading (List Json)
  | 0, _, cs => .error (.broken .expectingValue cs.length)
  | fuel + 1, depth, cs =>
      match readValue fuel depth cs with
      | .error stop => .error stop
      | .ok (value, rest) =>
          match skipGap rest with
          | ']' :: rest => .ok ([value], rest)
          | ',' :: rest =>
              match readItems fuel depth (skipGap rest) with
              | .ok (values, rest) => .ok (value :: values, rest)
              | .error stop => .error stop
          | rest => .error (.broken .expectingComma rest.length)

/-- The members of an object, from one of them on to behind the closing brace. -/
def readMembers : (fuel depth : Nat) → List Char → Reading (List (String × Json))
  | 0, _, cs => .error (.broken .expectingName cs.length)
  | fuel + 1, depth, '"' :: cs =>
      match readString (cs.length + 1) cs with
      | .error stop => .error stop
      | .ok (name, rest) =>
          match skipGap rest with
          | ':' :: rest =>
              match readValue fuel depth (skipGap rest) with
              | .error stop => .error stop
              | .ok (value, rest) =>
                  match skipGap rest with
                  | '}' :: rest => .ok ([(name.text, value)], rest)
                  | ',' :: rest =>
                      match readMembers fuel depth (skipGap rest) with
                      | .ok (members, rest) => .ok ((name.text, value) :: members, rest)
                      | .error stop => .error stop
                  | rest => .error (.broken .expectingComma rest.length)
          | rest => .error (.broken .expectingColon rest.length)
  | _ + 1, _, cs => .error (.broken .expectingName cs.length)

end

/-- Why a text has no first document; a flaw with the position of its character. -/
inductive ReadError where
  | malformed (flaw : Flaw) (position : Nat)
  | numeralTooLong (digits : Nat)
  | tooDeep (container : Container)
deriving DecidableEq, Repr

/-- The error of a stop in a text of `length` characters. -/
def Stop.toReadError (length : Nat) : Stop → ReadError
  | .broken flaw left => .malformed flaw (length - left)
  | .numeralTooLong digits => .numeralTooLong digits
  | .tooDeep container => .tooDeep container

/-- The first document of a text that starts with it, and the characters behind. -/
def read (cs : List Char) : Except ReadError (Json × List Char) :=
  match readValue (2 * cs.length + 1) maxDepth cs with
  | .ok found => .ok found
  | .error stop => .error (stop.toReadError cs.length)

end LintBridge.Json
