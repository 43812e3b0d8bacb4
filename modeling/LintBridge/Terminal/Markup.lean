import LintBridge.Terminal.Action
import LintBridge.Terminal.Style
import LintBridge.Terminal.Tab
import LintBridge.Text.Quoted

/-!
Markup in texts: tags between square brackets that style what stands between them and do not show
themselves.

A tag starts with a small letter, a number sign, a slash or an at sign; brackets around anything
else are text. A backslash in front takes a tag for text, two backslashes are one. A tag that starts
with a slash closes the last open tag of its name, or the last one of all if it names none. Names
that mean the same style are the same. A tag that starts with an at sign has an action behind its
equals sign, which is read when the tag is closed. Behind the equals sign of another tag its style
goes on, which matters for the text that it stands around.
-/

namespace LintBridge.Terminal

/-- Why markup cannot be shown. -/
inductive MarkupError where
  | nothingOpen (position : Nat)
  | notOpen (tag : String) (position : Nat)
  | badAction (fault : ActionFault)
  | badColour (error : Decimal.IntegerError)
deriving DecidableEq, Repr

def MarkupError.message : MarkupError → String
  | .nothingOpen position => s!"closing tag '[/]' at position {position} has nothing to close"
  | .notOpen tag position =>
      "closing tag '[" ++ tag ++ s!"]' at position {position} doesn't match any open tag"
  | .badAction fault => fault.message
  | .badColour error => error.message

/-- A piece of markup: text, or a tag with its position and what stands between its brackets. -/
inductive MarkupPiece where
  | text (content : List Char)
  | tag (position : Nat) (content : List Char)
deriving DecidableEq, Repr

/-- Whether a character can be the first one of a tag. -/
def startsTag (c : Char) : Bool :=
  ('a' ≤ c && c ≤ 'z') || c == '#' || c == '/' || c == '@'

/-- The inside of a tag, from behind its opening bracket on, and the text behind the closing one. -/
def takeTag? (cs : List Char) : Option (List Char × List Char) :=
  if cs.head?.any startsTag then
    let inside := cs.takeWhile fun c => c != ']' && c != '['
    match cs.dropWhile fun c => c != ']' && c != '[' with
    | ']' :: rest => some (inside, rest)
    | _ => none
  else none

/-- Backslashes and a tag at a position: the pieces they stand for, and the text behind. -/
def takeEscaped? (position : Nat) (cs : List Char) : Option (List MarkupPiece × List Char) :=
  let slashes := (cs.takeWhile (· == '\\')).length
  match cs.drop slashes with
  | '[' :: body =>
      (takeTag? body).map fun (inside, rest) =>
        let shown := slashes / 2
        let piece :=
          if slashes % 2 = 1 then .text ('[' :: inside ++ [']'])
          else .tag (position + 2 * shown) inside
        ([.text (List.replicate shown '\\'), piece], rest)
  | _ => none

/-- The pieces of a text that starts at a position. Each step takes at least one character, so
`fuel` is at most the length of the text. A backslash in front of a bracket that opens no tag is
left out. -/
def piecesFrom : (fuel position : Nat) → List Char → List MarkupPiece
  | 0, _, _ => []
  | _ + 1, _, [] => []
  | fuel + 1, position, c :: rest =>
      match takeEscaped? position (c :: rest) with
      | some (pieces, after) =>
          pieces ++ piecesFrom fuel (position + (rest.length + 1 - after.length)) after
      | none =>
          match c, rest with
          | '\\', '[' :: more => .text ['['] :: piecesFrom fuel (position + 2) more
          | _, _ => .text [c] :: piecesFrom fuel (position + 1) rest

/-- An open tag: its name, what stands behind its equals sign, and how much text it stands behind.
-/
structure OpenTag where
  name : List Char
  parameters : List Char
  start : Nat
deriving DecidableEq, Repr

/-- A stretch of text whose style has a colour that cannot be read. -/
structure Stain where
  start : Nat
  stop : Nat
  error : Decimal.IntegerError
deriving DecidableEq, Repr

/-- What markup shows: its text without control characters, and the stains in it, those that start
first in front. -/
structure Shown where
  text : List Char
  stains : List Stain
deriving DecidableEq, Repr

/-- The name of a tag as names are compared. -/
def plainTag (name : List Char) : Except MarkupError (List Char) :=
  match Style.normalName name with
  | .ok name => .ok name
  | .error error => .error (.badColour error)

/-- The stain that a tag leaves on the text up to a place: its name and its parameters make one
style. -/
def OpenTag.stain? (tag : OpenTag) (stop : Nat) : Option Stain :=
  match Style.parse (tag.name ++ ' ' :: tag.parameters) with
  | .error (.component error) => some ⟨tag.start, stop, error⟩
  | _ => none

/-- The stain that a tag leaves when it is closed. A tag with an action leaves none, but its action
is read. -/
def OpenTag.close (tag : OpenTag) (stop : Nat) : Except MarkupError (Option Stain) :=
  if tag.name.head? ≠ some '@' then .ok (tag.stain? stop)
  else if tag.parameters = [] then .ok none
  else
    match checkAction tag.parameters with
    | .ok _ => .ok none
    | .error fault => .error (.badAction fault)

/-- The open tags after one more tag, the last one first, where `length` is how much text stands in
front; and the stain of the tag that it closes. -/
def afterTag (opened : List OpenTag) (length position : Nat) (content : List Char) :
    Except MarkupError (Option Stain × List OpenTag) :=
  match content.takeWhile (· != '=') with
  | '/' :: name =>
      if Text.trim name = [] then
        match opened with
        | [] => .error (.nothingOpen position)
        | tag :: rest => do return (← tag.close length, rest)
      else do
        let plain ← plainTag (Text.trim name)
        match opened.find? (·.name = plain) with
        | none => throw (.notOpen (String.ofList content) position)
        | some tag => return (← tag.close length, opened.eraseP (·.name = plain))
  | name => do
      let tag := ⟨← plainTag name, (content.dropWhile (· != '=')).drop 1, length⟩
      return (none, tag :: opened)

/-- What pieces show behind so much text, where `opened` are the open tags. Stains come in the order
in which their tags are closed, those of open tags last. -/
def shownFrom (opened : List OpenTag) (length : Nat) :
    List MarkupPiece → Except MarkupError Shown
  | [] => .ok ⟨[], opened.filterMap (·.stain? length)⟩
  | .text content :: rest => do
      let text := content.filter (!isDropped ·)
      let shown ← shownFrom opened (length + text.length) rest
      return { shown with text := text ++ shown.text }
  | .tag position content :: rest => do
      let (stain, opened) ← afterTag opened length position content
      let shown ← shownFrom opened length rest
      return { shown with stains := stain.toList ++ shown.stains }

/-- What markup shows. Of stains that start at one place the one of the outer tag is in front. -/
def render (markup : String) : Except MarkupError Shown := do
  let cs := markup.toList
  let shown ← shownFrom [] 0 (piecesFrom cs.length 0 cs)
  return { shown with stains := shown.stains.reverse.mergeSort (·.start ≤ ·.start) }

end LintBridge.Terminal
