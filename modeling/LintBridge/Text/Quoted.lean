import LintBridge.Text.Half
import LintBridge.Text.Printable

/-!
Quoted text: a text between quotes, in which every character that does not print is an escape. The
quotes are single, unless the text holds a single quote and no double one; then they are double.

The text that tells of halves of surrogate pairs stands here too, since it quotes the first one.
-/

namespace LintBridge.Text

/-- The hexadecimal digits of `n`, lower case, padded with zeros to `width`. -/
def hex (width n : Nat) : List Char :=
  let digits := Nat.toDigits 16 n
  List.replicate (width - digits.length) '0' ++ digits

/-- The quote that surrounds a text. -/
def quoteFor (cs : List Char) : Char :=
  if cs.contains '\'' && !cs.contains '"' then '"' else '\''

/-- One character inside quotes. -/
def quoteChar (mark c : Char) : List Char :=
  if c = mark || c = '\\' then ['\\', c]
  else if c = '\n' then ['\\', 'n']
  else if c = '\r' then ['\\', 'r']
  else if c = '\t' then ['\\', 't']
  else if let some unit := half? c then ['\\', 'u'] ++ hex 4 unit
  else if isPrintable c then [c]
  else if c.toNat ≤ 0xFF then ['\\', 'x'] ++ hex 2 c.toNat
  else if c.toNat ≤ 0xFFFF then ['\\', 'u'] ++ hex 4 c.toNat
  else ['\\', 'U'] ++ hex 8 c.toNat

/-- The text between quotes. -/
def quote (cs : List Char) : List Char :=
  let mark := quoteFor cs
  mark :: cs.flatMap (quoteChar mark) ++ [mark]

/-- The quoted form of a string. -/
def quoted (s : String) : String :=
  String.ofList (quote s.toList)

def NoBytes.message (e : NoBytes) : String :=
  let place :=
    if e.count = 1 then
      "character " ++ String.ofList (quote [Half.standIn e.unit]) ++ s!" in position {e.position}"
    else s!"characters in position {e.position}-{e.position + e.count - 1}"
  "'utf-8' codec can't encode " ++ place ++ ": surrogates not allowed"

end LintBridge.Text
