import LintBridge.Terminal.Width
import LintBridge.Text.Blank

/-!
Lines that are too wide for their place.

A line that fits, or that is blank, stays one line. Any other is broken in front of words; a word
that is wider than the place is broken between its characters, or stays whole and is cut at the end
of the place with an ellipsis.
-/

namespace LintBridge.Terminal

/-- What is done with a word that is wider than its place. -/
inductive Overflow where
  | fold
  | ellipsis
deriving DecidableEq, Repr

/-! ### Parts of a line -/

/-- The parts of a line that start with a character that is not blank behind a blank one. -/
def blankEnded : List Char → List (List Char)
  | [] => []
  | c :: rest =>
      match blankEnded rest with
      | [] => [[c]]
      | part :: more =>
          if Text.isBlank c && part.head?.any (!Text.isBlank ·) then [c] :: part :: more
          else (c :: part) :: more

/-- The words of a line, each with the blanks behind it, and the first one also with those in front
of it. A blank line has none. -/
def spacedWords (line : List Char) : List (List Char) :=
  match blankEnded line with
  | first :: rest =>
      if first.all Text.isBlank then
        match rest with
        | [] => []
        | second :: more => (first ++ second) :: more
      else first :: rest
  | [] => []

/-- The characters of a line, each with those of no cell behind it and with what a joiner joins. -/
def clusters : List Char → List (List Char)
  | [] => []
  | c :: rest =>
      match clusters rest with
      | [] => [[c]]
      | cluster :: more =>
          if c = '\u200d' ∨ cluster.head?.any (charWidth · = 0) then (c :: cluster) :: more
          else [c] :: cluster :: more

/-! ### Breaking and cutting -/

/-- Clusters packed into lines of a size, behind the cells that the first line has already. -/
def pack (size : Nat) (line : List Char) (reached : Nat) : List (List Char) → List (List Char)
  | [] => [line]
  | cluster :: rest =>
      if size < reached + width cluster then line :: pack size cluster (width cluster) rest
      else pack size (line ++ cluster) (reached + width cluster) rest

/-- A line in front of others, if there is anything on it. -/
def startingWith (line : List Char) (lines : List (List Char)) : List (List Char) :=
  if line = [] then lines else line :: lines

/-- Words set into lines of a size, behind what the first line has already. -/
def setWords (overflow : Overflow) (size : Nat) (line : List Char) (reached : Nat) :
    List (List Char) → List (List Char)
  | [] => [line]
  | word :: rest =>
      let needed := width (Text.dropEndWhile Text.isBlank word)
      if reached + needed ≤ size then
        setWords overflow size (line ++ word) (reached + width word) rest
      else if needed ≤ size ∨ overflow = .ellipsis then
        startingWith line (setWords overflow size word (width word) rest)
      else
        let pieces := pack size [] 0 (clusters word)
        let last := pieces.getLast?.getD []
        startingWith line (pieces.dropLast ++ setWords overflow size last (width last) rest)

/-- A line of exactly a size: its first clusters, and a space where a wide one does not fit. -/
def cut (size : Nat) (line : List Char) : List Char :=
  let first := ((pack size [] 0 (clusters line)).head?).getD []
  first ++ List.replicate (size - width first) ' '

/-- A line without the blanks at its end that are more characters than a size. -/
def dropExcess (size : Nat) (line : List Char) : List Char :=
  let blanks := line.length - (Text.dropEndWhile Text.isBlank line).length
  line.take (line.length - min blanks (line.length - size))

/-- A line at most as wide as a size. -/
def crop (overflow : Overflow) (size : Nat) (line : List Char) : List Char :=
  if width line ≤ size then line
  else
    match overflow with
    | .fold => cut size line
    | .ellipsis => cut (size - 1) line ++ ['…']

/-- The lines that a line takes in a place of a size. -/
def fit (overflow : Overflow) (size : Nat) (line : List Char) : List (List Char) :=
  let rows :=
    if width line ≤ size ∨ line.all Text.isBlank then [line]
    else setWords overflow size [] 0 (spacedWords line)
  rows.map fun row => crop overflow size (dropExcess size row)

end LintBridge.Terminal
