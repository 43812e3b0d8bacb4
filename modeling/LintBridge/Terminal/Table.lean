import LintBridge.Terminal.Columns
import LintBridge.Terminal.Fold
import LintBridge.Terminal.Markup
import LintBridge.Text.Newline

/-!
Tables and panels, drawn for a width.

A table has a title, a header, a rule under it and rows. Each column asks for the width of its
widest cell with a space on both sides; what is left of the screen is shared out, and columns that
ask for more than there is are narrowed. A panel is a frame around one line. All texts are markup.

A cell is measured before its tabs are written as spaces, and every character that ends a line by
its meaning ends one for the measure; on the screen only line feeds do. A cell that is too wide for
its column is folded.

A stain is a fault only where it is seen: on a character that is drawn, or, if it is on none, on a
text that is drawn in one piece. The title is drawn first, then the rows.

The line of a panel is not folded, so screens that are narrower than it with its frame are left out.
-/

namespace LintBridge.Terminal

/-- What is drawn on: its width, and whether long lines are left to the terminal, so that a title is
neither centred nor filled up. -/
structure Screen where
  width : Nat
  soft : Bool
deriving DecidableEq, Repr

/-- A cell: what its markup shows. -/
abbrev Cell := Shown

/-- A cell from its markup. -/
def Cell.ofMarkup (markup : String) : Except MarkupError Cell :=
  render markup

/-- A cell without markup. -/
def Cell.plain (text : String) : Cell :=
  ⟨text.toList, []⟩

/-- The cells that the widest line of a cell is measured at. -/
def Cell.width (cell : Cell) : Nat :=
  let lines := Text.lines (cell.text.map fun c => if Text.isLineEnd c then '\n' else c)
  (lines.map Terminal.width).foldl max 0

/-- The lines of a cell on a screen, in a place of a size. -/
def Cell.rows (overflow : Overflow) (size : Nat) (cell : Cell) : List (List Char) :=
  (Text.lines cell.text).flatMap fun line => fit overflow size (expandTabs line)

/-- The first stain that is seen on a cell in a place of a size, where `drawn` tells for each
character whether it is drawn. A text is taken apart at line feeds and tabs, and where it is too
wide; of a stain on no character nothing remains then. -/
def Cell.stain? (size : Nat) (drawn : List Bool) (cell : Cell) : Option Stain :=
  let apart := cell.text.any (fun c => c == '\n' || c == '\t') || size < Terminal.width cell.text
  cell.stains.find? fun stain =>
    if stain.start = stain.stop then !apart && (drawn.all id || drawn.getD stain.start false)
    else ((drawn.take stain.stop).drop stain.start).any id

/-- For each character of a text, whether it is drawn: all are but line feeds. -/
def drawnOf (cs : List Char) : List Bool :=
  cs.map (· != '\n')

/-- For each character of a text, whether it is drawn if the blanks at the ends of lines are cut
off: what has something behind it on its line that is no blank, or is none itself. -/
def drawnCut : List Char → List Bool
  | [] => []
  | c :: rest =>
      ((c :: rest).takeWhile (· != '\n')).any (!Text.isBlank ·) :: drawnCut rest

/-- A column: its header, the cells below, and what is done where one is too wide. -/
structure Column where
  header : Cell
  cells : List Cell
  overflow : Overflow
deriving DecidableEq, Repr

/-- The width that a column asks for: its widest cell and a space on both sides. -/
def Column.width (column : Column) : Nat :=
  ((column.header :: column.cells).map Cell.width).foldl max 0 + 2

/-- A line filled up with spaces. -/
def fill (size : Nat) (line : List Char) : List Char :=
  line ++ List.replicate (size - width line) ' '

/-- A line in the middle of a width, one space more on the right if need be. -/
def centre (size : Nat) (line : List Char) : List Char :=
  let line := Text.dropEndWhile Text.isBlank line
  fill size (List.replicate ((size - width line) / 2) ' ' ++ line)

/-- The widths of columns: what each one asks for, none more than there is, narrowed to the room that
there is and with its share of the room that is left. -/
def columnWidths (total : Nat) (columns : List Column) : List Nat :=
  let room := total - (columns.length + 1)
  let kept := narrow room (columns.map fun column => min column.width room)
  share (room - totalOf kept) kept

/-- One line of a cell in a column of a width. It is filled up a second time for the space that a
joiner at its end joins. -/
def cellLine (size : Nat) (line : List Char) : List Char :=
  ' ' :: fill (size - 2) (fill (size - 2) line) ++ [' ']

/-- Where the lines of a cell stand that has fewer than others in its row. -/
inductive Align where
  | top
  | bottom
deriving DecidableEq, Repr

/-- The lines of a cell with empty ones in front of them if they stand at the bottom of a height. -/
def Align.rows (align : Align) (height : Nat) (rows : List (List Char)) : List (List Char) :=
  match align with
  | .top => rows
  | .bottom => List.replicate (height - rows.length) [] ++ rows

/-- A row: its cells side by side, each in a column of a width, with as many lines as its longest
cell. -/
def rowLines (align : Align) (shape : List (Nat × Overflow)) (cells : List Cell) :
    List (List Char) :=
  let sizes := shape.map Prod.fst
  let rows :=
    List.zipWith (fun (size, overflow) cell => Cell.rows overflow (size - 2) cell) shape cells
  let height := (rows.map List.length).foldl max 0
  (List.range height).map fun i =>
    (List.zipWith (fun size row => ' ' :: cellLine size (row.getD i [])) sizes
      (rows.map (align.rows height))).flatten ++ [' ']

/-- A line of spaces. -/
def blankLine (size : Nat) : List Char :=
  List.replicate size ' '

/-- The line under a header. -/
def rule (size : Nat) : List Char :=
  ' ' :: List.replicate (size - 2) '─' ++ [' ']

/-- The lines of a title. -/
def titleLines (screen : Screen) (title : Cell) : List (List Char) :=
  if screen.soft then (Text.lines title.text).map expandTabs
  else (title.rows .fold screen.width).map (centre screen.width)

/-- The cells that stand side by side in columns, the first row first. -/
def rowsOf (columns : List Column) : List (List Cell) :=
  let height := (columns.map (·.cells.length)).foldl max 0
  (List.range height).map fun i => columns.map (·.cells.getD i (Cell.plain ""))

/-- The first stain that is seen on a title. The blanks at the ends of its lines are cut off unless
it is left to the terminal. -/
def titleStain? (screen : Screen) (title : Cell) : Option Stain :=
  if screen.soft then title.stain? (Terminal.width title.text) (drawnOf title.text)
  else title.stain? screen.width (drawnCut title.text)

/-- The first stain that is seen on a table of columns under a title. -/
def tableStain? (screen : Screen) (title : Cell) (columns : List Column) : Option Stain :=
  let sizes := columnWidths screen.width columns
  (titleStain? screen title).or <| (rowsOf columns).findSome? fun cells =>
    (sizes.zip cells).findSome? fun (size, cell) => cell.stain? (size - 2) (drawnOf cell.text)

/-- A table of columns under a title. -/
def tableLines (screen : Screen) (title : Cell) (columns : List Column) : List (List Char) :=
  let shape := (columnWidths screen.width columns).zip (columns.map (·.overflow))
  titleLines screen title ++ [blankLine screen.width] ++
    rowLines .bottom shape (columns.map (·.header)) ++ [rule screen.width] ++
    (rowsOf columns).flatMap (rowLines .top shape) ++ [blankLine screen.width]

/-- A line in a frame. -/
def panelLines (size : Nat) (line : List Char) : List (List Char) :=
  let edge := List.replicate (size - 2) '─'
  [ '╭' :: edge ++ ['╮'],
    ['│', ' '] ++ fill (size - 4) line ++ [' ', '│'],
    '╰' :: edge ++ ['╯'] ]

end LintBridge.Terminal
