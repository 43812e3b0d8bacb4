import LintBridge.Terminal.Width
import LintBridge.Text.Search

/-!
Tab stops, and the characters that a terminal does not get to see.

A tab is shown as a space and as many more as lead to the next tab stop. The parts of a line that
end in a tab stay apart, so that each can be coloured by itself.
-/

namespace LintBridge.Terminal

/-- Control characters that are left out of what is written. -/
def isDropped (c : Char) : Bool :=
  [7, 8, 11, 12, 13].contains c.toNat

/-- The distance of tab stops, in cells. -/
def tabSize : Nat := 8

/-- The spaces from a column up to the next tab stop; none at a tab stop. -/
def toTabStop (column : Nat) : Nat :=
  (tabSize - column % tabSize) % tabSize

/-- The parts of a line, each with its tab written as a space and filled up to the next tab stop. -/
def expandParts (column : Nat) : List (List Char) → List (List Char)
  | [] => []
  | [last] => [last]
  | part :: rest =>
      let shown := part ++ [' ']
      let reached := column + width shown
      let gap := toTabStop reached
      (shown ++ List.replicate gap ' ') :: expandParts (reached + gap) rest

/-- The parts of a line between its tabs, with the tabs written as spaces. -/
def tabParts (line : List Char) : List (List Char) :=
  expandParts 0 (Text.splitAt '\t' line)

/-- A line with its tabs written as spaces. -/
def expandTabs (line : List Char) : List Char :=
  (tabParts line).flatten

end LintBridge.Terminal
