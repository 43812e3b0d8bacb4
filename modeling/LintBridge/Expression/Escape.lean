import LintBridge.Expression.Fault
import LintBridge.Text.CharacterName
import LintBridge.Text.Hexadecimal

/-!
Escapes in quoted texts: a backslash and what follows it.

A text is looked at in its ASCII form, so that the places of its faults are places in that form. Of
bytes only those that are written in hexadecimal digits can be wrong. What an escape means does not
matter here.
-/

namespace LintBridge.Expression

/-- Whether a character is one of ASCII. -/
def isAscii (c : Char) : Bool :=
  c.toNat < 0x80

/-- A backslash as an escape. -/
def escapedBackslash : List Char :=
  "\\u005c".toList

/-- A character as an escape of eight digits. -/
def escaped (c : Char) : List Char :=
  '\\' :: 'U' :: Text.hex 8 c.toNat

/-- The ASCII form of a text: all other characters are written as escapes, and so is a backslash in
front of one or at the end. -/
def asciiForm : List Char → List Char
  | [] => []
  | '\\' :: [] => escapedBackslash
  | '\\' :: c :: rest =>
      (if isAscii c then ['\\', c] else escapedBackslash ++ escaped c) ++ asciiForm rest
  | c :: rest => (if isAscii c then [c] else escaped c) ++ asciiForm rest

/-- A fault of an escape: how much of the text it spans, and what is wrong. -/
structure EscapeFault where
  length : Nat
  reason : String
deriving DecidableEq, Repr

/-- The fault of an escape that asks for some hexadecimal digits, of which `rest` is the text behind
its letter. -/
def digitsFault? (count : Nat) (reason : String) (rest : List Char) : Option EscapeFault :=
  let digits := (rest.take count).takeWhile Text.isHexDigit
  if digits.length < count then some ⟨digits.length + 2, reason⟩
  else if (Text.hexValue? digits).any (0x10FFFF < ·) then
    some ⟨count + 2, "illegal Unicode character"⟩
  else none

/-- The fault of an escape that names a character, of which `rest` is the text behind its letter. -/
def nameFault? (rest : List Char) : Option EscapeFault :=
  let malformed := "malformed \\N character escape"
  match rest with
  | '{' :: body =>
      let name := body.takeWhile (· != '}')
      if name.length = body.length then some ⟨body.length + 3, malformed⟩
      else if name = [] then some ⟨3, malformed⟩
      else if Text.isCharacterName name then none
      else some ⟨name.length + 4, "unknown Unicode character name"⟩
  | _ => some ⟨2, malformed⟩

/-- The fault of the escape that a letter and the text behind it make. -/
def escapeFault? (letter : Char) (rest : List Char) : Option EscapeFault :=
  match letter with
  | 'x' => digitsFault? 2 "truncated \\xXX escape" rest
  | 'u' => digitsFault? 4 "truncated \\uXXXX escape" rest
  | 'U' => digitsFault? 8 "truncated \\UXXXXXXXX escape" rest
  | 'N' => nameFault? rest
  | _ => none

/-- The first fault of the escapes in a text in ASCII, of which a part stands at a position. -/
def textFaultFrom? (position : Nat) : List Char → Option LiteralFault
  | '\\' :: letter :: rest =>
      match escapeFault? letter rest with
      | some ⟨length, reason⟩ => some (.badEscape position (position + length - 1) reason)
      | none => textFaultFrom? (position + 2) rest
  | _ :: rest => textFaultFrom? (position + 1) rest
  | [] => none

/-- The first fault of the escapes in a text. -/
def textFault? (cs : List Char) : Option LiteralFault :=
  textFaultFrom? 0 (asciiForm cs)

/-- The first fault of the escapes in bytes, of which a part stands at a position. -/
def bytesFault? (position : Nat) : List Char → Option LiteralFault
  | '\\' :: letter :: rest =>
      if letter = 'x' ∧ ((rest.take 2).takeWhile Text.isHexDigit).length < 2 then
        some (.badByteEscape position)
      else bytesFault? (position + 2) rest
  | _ :: rest => bytesFault? (position + 1) rest
  | [] => none

end LintBridge.Expression
