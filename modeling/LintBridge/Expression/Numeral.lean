import LintBridge.Decimal.Integer
import LintBridge.Decimal.Numeral
import LintBridge.Expression.Fault
import LintBridge.Text.Hexadecimal

/-!
Numbers in expressions.

A number is written in decimal digits, perhaps with a fraction, an exponent and the letter of an
imaginary one, or with a letter behind a zero and the digits of another base. Single underscores may
stand between digits. Behind a number there is no letter, unless a word starts there that may follow
one.
-/

namespace LintBridge.Expression

/-- The value of a number, as far as it matters. -/
inductive Number where
  | whole (value : Nat)
  | real
  | imaginary
deriving DecidableEq, Repr

/-- The characters that may not stand right behind a number; those outside ASCII may. -/
def isNameLike (c : Char) : Bool :=
  c.isAlphanum || c == '_'

/-- Whether a word starts that may stand right behind a number. The short ones may go on. -/
def startsFollower (cs : List Char) : Bool :=
  let ends (rest : List Char) : Bool := !rest.head?.any fun c => isNameLike c || 0x80 ≤ c.toNat
  ["if", "in", "is"].any (·.toList.isPrefixOf cs) ||
    ["and", "else", "for", "or", "not"].any fun word => (word.toList.isPrefixOf? cs).any ends

/-- Numerals are scanned into what they are made of and the text behind. -/
abbrev Scanned := Except LexicalFault (List Char × List Char)

/-- The number, if it may end where it does. -/
def endNumber (kind : NumberKind) (digits rest : List Char) : Scanned :=
  if !startsFollower rest && rest.head?.any isNameLike then .error (.badNumber kind)
  else .ok (digits, rest)

/-- Decimal digits at the start of a text. -/
def takeDigits (cs : List Char) : Scanned :=
  let isPart (c : Char) : Bool := c.isDigit || c == '_'
  let digits := cs.takeWhile isPart
  if Decimal.wellSeparated digits then .ok (digits, cs.dropWhile isPart)
  else .error (.badNumber .decimal)

/-- Decimal digits, or none if the text does not start with one. -/
def takeDigits? (cs : List Char) : Scanned :=
  if cs.head?.any Char.isDigit then takeDigits cs else .ok ([], cs)

/-- The end of a decimal number, `before` being its digits so far. -/
def endDecimal (before rest : List Char) : Scanned :=
  match rest with
  | 'j' :: more => endNumber .imaginary (before ++ ['j']) more
  | 'J' :: more => endNumber .imaginary (before ++ ['j']) more
  | _ => endNumber .decimal before rest

/-- An exponent and the end of a decimal number. A letter behind which no exponent stands starts a
word. -/
def takeExponent (before rest : List Char) : Scanned :=
  match rest with
  | [] => .ok (before, [])
  | e :: more =>
      if e ≠ 'e' ∧ e ≠ 'E' then endDecimal before rest
      else
        match more with
        | sign :: digits =>
            if sign = '+' ∨ sign = '-' then
              if digits.head?.any Char.isDigit then do
                let (exponent, rest) ← takeDigits digits
                endDecimal (before ++ 'e' :: sign :: exponent) rest
              else .error (.badNumber .decimal)
            else if sign.isDigit then do
              let (exponent, rest) ← takeDigits more
              endDecimal (before ++ 'e' :: exponent) rest
            else endNumber .decimal before rest
        | [] => endNumber .decimal before rest

/-- What stands behind the point of a decimal number. -/
def takeFraction (before rest : List Char) : Scanned := do
  let (digits, rest) ← takeDigits? rest
  takeExponent (before ++ '.' :: digits) rest

/-- A decimal number. Zeros in front are for numbers with a fraction, an exponent or an imaginary
letter. -/
def takeDecimal (cs : List Char) : Scanned := do
  let (digits, rest) ← takeDigits cs
  let padded := digits.head? = some '0' && digits.any fun c => c != '0' && c != '_'
  match rest with
  | '.' :: more => takeFraction digits more
  | c :: _ =>
      if padded && !(['e', 'E', 'j', 'J'].contains c) then .error .leadingZeros
      else takeExponent digits rest
  | [] => if padded then .error .leadingZeros else .ok (digits, [])

/-- The digits of a base behind its letter. -/
def takeBased (kind : NumberKind) (isBaseDigit : Char → Bool) (letter : Char) (cs : List Char) :
    Scanned :=
  let isPart (c : Char) : Bool := isBaseDigit c || c == '_'
  let digits := cs.takeWhile isPart
  let rest := cs.dropWhile isPart
  let solid := if digits.getLast? = some '_' then digits.dropLast else digits
  let doubled := !Decimal.wellSeparated ('0' :: solid)
  let complete := digits ≠ [] && digits.getLast? ≠ some '_' && !doubled
  let foreign := if doubled then none else rest.head?.filter Char.isDigit
  match foreign with
  | some digit => .error (.badDigit digit kind)
  | none =>
      if complete then endNumber kind ('0' :: letter :: digits) rest else .error (.badNumber kind)

/-- A number at the start of a text that starts with a digit. -/
def takeNumber (cs : List Char) : Scanned :=
  match cs with
  | '0' :: letter :: rest =>
      match letter.toLower with
      | 'x' =>
          takeBased .hexadecimal (fun c => c.isDigit || ('a' ≤ c.toLower && c.toLower ≤ 'f')) 'x'
            rest
      | 'o' => takeBased .octal (fun c => '0' ≤ c && c ≤ '7') 'o' rest
      | 'b' => takeBased .binary (fun c => c == '0' || c == '1') 'b' rest
      | _ => takeDecimal cs
  | _ => takeDecimal cs

/-- The value of digits of a base; underscores count for nothing. -/
def basedValue (base : Nat) (digits : List Char) : Nat :=
  (digits.filterMap fun c => Text.hexValue? [c]).foldl (fun n d => n * base + d) 0

/-- The number that scanned digits mean. -/
def Number.ofDigits (digits : List Char) : Except LiteralFault Number :=
  match digits with
  | '0' :: 'x' :: rest => .ok (.whole (basedValue 16 rest))
  | '0' :: 'o' :: rest => .ok (.whole (basedValue 8 rest))
  | '0' :: 'b' :: rest => .ok (.whole (basedValue 2 rest))
  | _ =>
      if digits.getLast? = some 'j' then .ok .imaginary
      else if digits.any fun c => c == '.' || c == 'e' then .ok .real
      else
        let plain := digits.filter (· != '_')
        if plain.head? ≠ some '0' ∧ Decimal.maxDigits < plain.length then
          .error (.tooManyDigits plain.length)
        else .ok (.whole (Decimal.digitsValue plain))

end LintBridge.Expression
