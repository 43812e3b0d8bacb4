import LintBridge.Terminal.Table
import LintBridge.Proofs.Terminal.Columns
import LintBridge.Proofs.Terminal.Fold
import Mathlib.Algebra.GroupWithZero.Nat
import Mathlib.Data.List.Forall2

/-!
Tables of texts that fit into their columns.

A column is at least as wide as its widest cell asks for, so a cell of printable text takes one line
in it, and stands there as it is. A row of such cells is one line, on which their texts stand one
behind the other (`inOrder_rowLine`); if the screen has room for the columns, it is as wide as the
screen (`width_pickedLine`). A title stands on one line if it fits, and keeps the spaces at its end
if there is as much room behind it (`titleLines_of_fits`). Nothing is drawn but texts and their
frame.
-/

namespace LintBridge.Terminal

open Text (Printable)

/-! ### Cells on one line -/

theorem Cell.rows_of_verbatim {cell : Cell} (h : Verbatim cell.text) {size : Nat}
    (hwidth : Terminal.width cell.text ≤ size) (overflow : Overflow) :
    cell.rows overflow size = [dropExcess size cell.text] := by
  rw [Cell.rows, Text.lines_of_not_mem h.not_mem_feed, List.flatMap_singleton, h.expandTabs_eq,
    fit_of_width_le overflow hwidth]

/-- Spaces that are dropped at the end of a line are filled in again. -/
theorem fill_dropExcess {size : Nat} {line : List Char} (h : Printable line)
    (hwidth : width line ≤ size) : fill size (dropExcess size line) = fill size line := by
  obtain ⟨n, hline, hsum⟩ := exists_spaces_of_dropExcess h size
  have hroom : size - width (dropExcess size line) = n + (size - width line) := by omega
  conv_rhs => rw [fill, hline]
  rw [fill, hroom, List.replicate_add, List.append_assoc, ← hline]

theorem cellLine_of_printable {size : Nat} {line : List Char} (h : Printable line)
    (hwidth : width line ≤ size - 2) :
    cellLine size (dropExcess (size - 2) line) = ' ' :: fill (size - 2) line ++ [' '] := by
  have hfull : size - 2 - width (fill (size - 2) line) = 0 := by
    rw [fill, width_append_spaces (joiner_not_mem h)]
    omega
  rw [cellLine, fill_dropExcess h hwidth, fill, hfull, List.replicate_zero, List.append_nil]

/-! ### Rows -/

/-- Texts side by side on one line, each with spaces around it and filled up to the width of its
column. -/
def rowLine (sizes : List Nat) (texts : List (List Char)) : List Char :=
  (List.zipWith (fun size text => [' ', ' '] ++ fill (size - 2) text ++ [' ']) sizes
    texts).flatten ++ [' ']

theorem rowLine_cons (size : Nat) (sizes : List Nat) (text : List Char) (rest : List (List Char)) :
    rowLine (size :: sizes) (text :: rest) =
      [' ', ' '] ++ text ++ (' ' :: blankLine (size - 2 - width text) ++ rowLine sizes rest) := by
  have hblank (n : Nat) : blankLine n ++ [' '] = ' ' :: blankLine n :=
    List.replicate_succ'.symm.trans List.replicate_succ
  rw [← hblank]
  simp [rowLine, fill, blankLine]

/-- Texts that stand on a line, one behind the other. -/
def InOrder : List (List Char) → List Char → Prop
  | [], _ => True
  | text :: rest, line => ∃ front back, line = front ++ text ++ back ∧ InOrder rest back

theorem InOrder.append_left {texts : List (List Char)} {line : List Char} (h : InOrder texts line)
    (front : List Char) : InOrder texts (front ++ line) := by
  cases texts with
  | nil => exact h
  | cons text rest =>
    obtain ⟨before, back, rfl, hrest⟩ := h
    exact ⟨front ++ before, back, by simp only [List.append_assoc], hrest⟩

theorem inOrder_rowLine {sizes : List Nat} {texts : List (List Char)}
    (h : sizes.length = texts.length) : InOrder texts (rowLine sizes texts) := by
  induction texts generalizing sizes with
  | nil => exact trivial
  | cons text rest ih =>
    cases sizes with
    | nil => cases h
    | cons size sizes =>
      exact ⟨[' ', ' '], _, rowLine_cons size sizes text rest, (ih (Nat.succ.inj h)).append_left _⟩

theorem mem_of_mem_rowLine {sizes : List Nat} {texts : List (List Char)} {c : Char}
    (hc : c ∈ rowLine sizes texts) : c = ' ' ∨ ∃ text ∈ texts, c ∈ text := by
  induction texts generalizing sizes with
  | nil =>
    left
    simpa [rowLine] using hc
  | cons text rest ih =>
    cases sizes with
    | nil =>
      left
      simpa [rowLine] using hc
    | cons size sizes =>
      rw [rowLine_cons] at hc
      simp only [List.mem_append, List.mem_cons, List.not_mem_nil, or_false, or_self] at hc
      rcases hc with (hspace | htext) | (hspace | hblank) | hrest
      · exact .inl hspace
      · exact .inr ⟨text, List.mem_cons_self, htext⟩
      · exact .inl hspace
      · exact .inl (List.eq_of_mem_replicate hblank)
      · rcases ih hrest with hspace | ⟨t, ht, hmem⟩
        · exact .inl hspace
        · exact .inr ⟨t, List.mem_cons_of_mem text ht, hmem⟩

/-- A cell of printable text that fits into a column of a width. -/
structure Fits (size : Nat) (cell : Cell) : Prop where
  printable : Printable cell.text
  width_le : Terminal.width cell.text + 2 ≤ size

/-- The lines of cells that take one each. -/
def fittedLines (shape : List (Nat × Overflow)) (cells : List Cell) : List (List Char) :=
  List.zipWith (fun column cell => dropExcess (column.1 - 2) cell.text) shape cells

theorem foldl_max_of_forall_eq {n : Nat} {sizes : List Nat} (hne : sizes ≠ [])
    (h : ∀ size ∈ sizes, size = n) : sizes.foldl max 0 = n := by
  have hrest (rest : List Nat) (h : ∀ size ∈ rest, size = n) : rest.foldl max n = n := by
    induction rest with
    | nil => rfl
    | cons size rest ih =>
      rw [List.foldl_cons, h size List.mem_cons_self, Nat.max_self]
      exact ih fun s hs => h s (List.mem_cons_of_mem size hs)
  cases sizes with
  | nil => exact absurd rfl hne
  | cons size rest =>
    rw [List.foldl_cons, h size List.mem_cons_self, Nat.zero_max]
    exact hrest rest fun s hs => h s (List.mem_cons_of_mem size hs)

section Fitting

variable {shape : List (Nat × Overflow)} {cells : List Cell}

theorem rows_of_fits (h : List.Forall₂ (fun column cell => Fits column.1 cell) shape cells) :
    List.zipWith (fun (size, overflow) cell => Cell.rows overflow (size - 2) cell) shape cells =
      (fittedLines shape cells).map ([·]) := by
  induction h with
  | nil => rfl
  | @cons column cell shape cells hfits _ ih =>
    have hwidth : width cell.text ≤ column.1 - 2 := Nat.le_sub_of_add_le hfits.width_le
    have hrows := Cell.rows_of_verbatim (verbatim_of_printable hfits.printable) hwidth column.2
    exact congrArg₂ List.cons hrows ih

theorem cellLines_of_fits (h : List.Forall₂ (fun column cell => Fits column.1 cell) shape cells) :
    List.zipWith (fun size row => ' ' :: cellLine size (row.getD 0 [])) (shape.map Prod.fst)
        ((fittedLines shape cells).map ([·])) =
      List.zipWith (fun size text => [' ', ' '] ++ fill (size - 2) text ++ [' '])
        (shape.map Prod.fst) (cells.map (·.text)) := by
  induction h with
  | nil => rfl
  | @cons column cell shape cells hfits _ ih =>
    have hwidth : width cell.text ≤ column.1 - 2 := Nat.le_sub_of_add_le hfits.width_le
    have hline := cellLine_of_printable hfits.printable hwidth
    exact congrArg₂ List.cons (congrArg (' ' :: ·) hline) ih

theorem Align.rows_singleton (align : Align) (line : List Char) : align.rows 1 [line] = [line] := by
  cases align with
  | top => rfl
  | bottom => rfl

/-- A row of cells that fit is one line, on which their texts stand side by side. -/
theorem rowLines_of_fits (align : Align) (hne : cells ≠ [])
    (h : List.Forall₂ (fun column cell => Fits column.1 cell) shape cells) :
    rowLines align shape cells = [rowLine (shape.map Prod.fst) (cells.map (·.text))] := by
  have hheight : (((fittedLines shape cells).map ([·])).map List.length).foldl max 0 = 1 := by
    apply foldl_max_of_forall_eq
    · cases h with
      | nil => exact absurd rfl hne
      | cons _ _ => exact List.cons_ne_nil _ _
    · intro size hsize
      rw [List.map_map] at hsize
      obtain ⟨line, -, rfl⟩ := List.mem_map.mp hsize
      rfl
  have halign : ((fittedLines shape cells).map ([·])).map (align.rows 1) =
      (fittedLines shape cells).map ([·]) := by
    rw [List.map_map]
    exact List.map_congr_left fun line _ => align.rows_singleton line
  rw [rowLines, rows_of_fits h, hheight, halign]
  exact congrArg (fun parts => [parts.flatten ++ [' ']]) (cellLines_of_fits h)

theorem width_rowLine (h : List.Forall₂ (fun column cell => Fits column.1 cell) shape cells) :
    width (rowLine (shape.map Prod.fst) (cells.map (·.text))) =
      (shape.map Prod.fst).sum + (shape.length + 1) := by
  induction h with
  | nil => decide +kernel
  | @cons column cell shape cells hfits _ ih =>
    have hle := hfits.width_le
    rw [List.map_cons, List.map_cons, rowLine_cons, List.append_assoc]
    change width (' ' :: ' ' :: (cell.text ++ ' ' :: (List.replicate _ ' ' ++ _))) = _
    rw [width_space, width_space, width_append_space (joiner_not_mem hfits.printable),
      width_spaces_append, ih, List.sum_cons, List.length_cons]
    omega

end Fitting

/-! ### Widths of columns -/

theorem le_foldl_max {n start : Nat} {sizes : List Nat} (h : n ≤ start ∨ n ∈ sizes) :
    n ≤ sizes.foldl max start := by
  induction sizes generalizing start with
  | nil => exact h.resolve_right List.not_mem_nil
  | cons size rest ih =>
    apply ih
    rcases h with hstart | hmem
    · exact .inl (Nat.le_trans hstart (Nat.le_max_left start size))
    · rcases List.mem_cons.mp hmem with rfl | hrest
      · exact .inl (Nat.le_max_right start n)
      · exact .inr hrest

theorem Cell.width_of_printable {cell : Cell} (h : Printable cell.text) :
    cell.width = Terminal.width cell.text := by
  have hmap : cell.text.map (fun c => if Text.isLineEnd c then '\n' else c) = cell.text := by
    refine (List.map_congr_left fun c hc => ?_).trans (List.map_id cell.text)
    rw [Text.isLineEnd_of_isPrintable (h c hc)]
    rfl
  rw [Cell.width, hmap, Text.lines_of_not_mem (verbatim_of_printable h).not_mem_feed]
  exact Nat.zero_max _

theorem Column.width_ge {column : Column} {cell : Cell}
    (h : cell ∈ column.header :: column.cells) : cell.width + 2 ≤ column.width :=
  Nat.add_le_add_right (le_foldl_max (.inr (List.mem_map_of_mem h))) 2

/-- Columns that have room become no narrower than they ask to be. -/
theorem width_le_columnWidths {total : Nat} {columns : List Column}
    (hroom : (columns.map Column.width).sum + (columns.length + 1) ≤ total) :
    List.Forall₂ (fun column size => column.width ≤ size) columns (columnWidths total columns) := by
  have htotal : totalOf (columns.map Column.width) ≤ total - (columns.length + 1) := by
    rw [totalOf_eq_sum]
    exact Nat.le_sub_of_add_le hroom
  have hnatural : (columns.map fun column => min column.width (total - (columns.length + 1))) =
      columns.map Column.width := by
    apply List.map_congr_left
    intro column hcolumn
    exact Nat.min_eq_left (Nat.le_trans (le_totalOf (List.mem_map_of_mem hcolumn)) htotal)
  rw [columnWidths, hnatural, narrow_of_le htotal]
  exact List.forall₂_map_left_iff.mp (le_share _ _)

theorem length_columnWidths (total : Nat) (columns : List Column) :
    (columnWidths total columns).length = columns.length := by
  rw [columnWidths, length_share, length_narrow, List.length_map]

/-- Whatever columns ask for, together they are as wide as the screen, if there is room for any. -/
theorem sum_columnWidths {total : Nat} {columns : List Column} (hne : columns ≠ [])
    (hroom : columns.length + 1 < total) :
    (columnWidths total columns).sum + (columns.length + 1) = total := by
  rw [columnWidths, ← totalOf_eq_sum]
  generalize hnatural : (columns.map fun column =>
    min column.width (total - (columns.length + 1))) = natural
  by_cases hwide : totalOf natural ≤ total - (columns.length + 1)
  · have hpos : ∀ size ∈ natural, 0 < size := by
      intro size hsize
      rw [← hnatural] at hsize
      obtain ⟨column, -, rfl⟩ := List.mem_map.mp hsize
      exact Nat.lt_min.mpr ⟨Nat.succ_pos _, Nat.sub_pos_of_lt hroom⟩
    have hsome : natural ≠ [] := by
      rintro rfl
      exact hne (List.map_eq_nil_iff.mp hnatural)
    rw [narrow_of_le hwide, totalOf_share hsome hpos]
    omega
  · have hexact := totalOf_narrow (Nat.le_of_not_le hwide)
    rw [hexact, Nat.sub_self, share_zero, hexact]
    omega

/-- The widths of columns, each with what is done where a cell is too wide. -/
def shapeOf (total : Nat) (columns : List Column) : List (Nat × Overflow) :=
  (columnWidths total columns).zip (columns.map (·.overflow))

theorem map_fst_shapeOf (total : Nat) (columns : List Column) :
    (shapeOf total columns).map Prod.fst = columnWidths total columns := by
  refine List.map_fst_zip (Nat.le_of_eq ?_)
  rw [length_columnWidths, List.length_map]

/-! ### Rows of columns -/

/-- What picks a cell of printable text from each column. -/
def Picks (columns : List Column) (pick : Column → Cell) : Prop :=
  ∀ column ∈ columns, pick column ∈ column.header :: column.cells ∧ Printable (pick column).text

/-- The line of the cells that are picked from columns. -/
def pickedLine (total : Nat) (columns : List Column) (pick : Column → Cell) : List Char :=
  rowLine (columnWidths total columns) (columns.map fun column => (pick column).text)

/-- The cell of a column in a row. -/
def cellAt (i : Nat) (column : Column) : Cell :=
  column.cells.getD i (Cell.plain "")

section Columns

variable {total height : Nat} {columns : List Column} {pick : Column → Cell}

/-- Columns of printable cells, as many in each, that have room on a screen of a width. -/
structure HasRoom (total height : Nat) (columns : List Column) : Prop where
  ne_nil : columns ≠ []
  room : (columns.map Column.width).sum + (columns.length + 1) ≤ total
  height : ∀ column ∈ columns, column.cells.length = height
  printable : ∀ column ∈ columns, ∀ cell ∈ column.header :: column.cells, Printable cell.text

theorem fits_of_picks (h : HasRoom total height columns) (hpick : Picks columns pick) :
    List.Forall₂ (fun column cell => Fits column.1 cell) (shapeOf total columns)
      (columns.map pick) := by
  have hsizes := width_le_columnWidths h.room
  rw [shapeOf]
  generalize columnWidths total columns = sizes at hsizes
  clear h
  induction hsizes with
  | nil => exact .nil
  | @cons column size columns sizes hsize _ ih =>
    obtain ⟨hmem, hprintable⟩ := hpick column List.mem_cons_self
    have hwidth := Nat.le_trans (Column.width_ge hmem) hsize
    rw [Cell.width_of_printable hprintable] at hwidth
    exact .cons ⟨hprintable, hwidth⟩ (ih fun c hc => hpick c (List.mem_cons_of_mem column hc))

theorem rowLines_of_picks (align : Align) (h : HasRoom total height columns)
    (hpick : Picks columns pick) :
    rowLines align (shapeOf total columns) (columns.map pick) =
      [pickedLine total columns pick] := by
  have hcells : columns.map pick ≠ [] := fun hnil => h.ne_nil (List.map_eq_nil_iff.mp hnil)
  rw [rowLines_of_fits align hcells (fits_of_picks h hpick), map_fst_shapeOf, List.map_map]
  rfl

theorem HasRoom.some_room (h : HasRoom total height columns) : columns.length + 1 < total := by
  have hroom := h.room
  cases hcolumns : columns with
  | nil => exact absurd hcolumns h.ne_nil
  | cons column rest =>
    have hwide : 2 ≤ column.width := Nat.le_add_left 2 _
    rw [hcolumns, List.map_cons, List.sum_cons] at hroom
    omega

theorem HasRoom.picks_header (h : HasRoom total height columns) : Picks columns Column.header :=
  fun column hcolumn =>
    ⟨List.mem_cons_self, h.printable column hcolumn _ List.mem_cons_self⟩

theorem HasRoom.picks_cellAt (h : HasRoom total height columns) {i : Nat} (hi : i < height) :
    Picks columns (cellAt i) := by
  intro column hcolumn
  have hbound : i < column.cells.length := h.height column hcolumn ▸ hi
  have hmem : cellAt i column ∈ column.header :: column.cells := by
    rw [cellAt, List.getD_eq_getElem?_getD, List.getElem?_eq_getElem hbound]
    exact List.mem_cons_of_mem _ (List.getElem_mem hbound)
  exact ⟨hmem, h.printable column hcolumn _ hmem⟩

theorem HasRoom.rowsOf_eq (h : HasRoom total height columns) :
    rowsOf columns = (List.range height).map fun i => columns.map (cellAt i) := by
  have hheight : (columns.map (·.cells.length)).foldl max 0 = height := by
    apply foldl_max_of_forall_eq
    · exact fun hnil => h.ne_nil (List.map_eq_nil_iff.mp hnil)
    · intro size hsize
      obtain ⟨column, hcolumn, rfl⟩ := List.mem_map.mp hsize
      exact h.height column hcolumn
  rw [rowsOf, hheight]
  rfl

/-- A row is as wide as the screen. -/
theorem width_pickedLine (h : HasRoom total height columns) (hpick : Picks columns pick) :
    width (pickedLine total columns pick) = total := by
  have hwidth := width_rowLine (fits_of_picks h hpick)
  have hlength := congrArg List.length (map_fst_shapeOf total columns)
  rw [List.length_map, length_columnWidths] at hlength
  rw [map_fst_shapeOf, List.map_map, hlength, sum_columnWidths h.ne_nil h.some_room] at hwidth
  exact hwidth

end Columns

/-! ### Titles -/

theorem centre_eq (size : Nat) (line : List Char) :
    centre size line =
      blankLine ((size - width (Text.dropEndWhile Text.isBlank line)) / 2) ++
        (Text.dropEndWhile Text.isBlank line ++
          blankLine ((size - width (Text.dropEndWhile Text.isBlank line) + 1) / 2)) := by
  simp only [centre, fill, width_spaces_append, blankLine, List.append_assoc]
  congr 3
  omega

/-- A title that stands as it is on one line. A screen that centres it is wide enough; the blanks at
its end, which are cut off and filled in again, are spaces then, no more than there is room for. -/
structure TitleFits (screen : Screen) (title : List Char) : Prop where
  verbatim : Verbatim title
  width_le : screen.soft = false → width title ≤ screen.width
  spaces : screen.soft = false →
    title <+: Text.dropEndWhile Text.isBlank title ++
      blankLine ((screen.width - width (Text.dropEndWhile Text.isBlank title) + 1) / 2)

/-- A title of ASCII that ends with no blank fits if it is no longer than the screen is wide. -/
theorem titleFits_of_ascii {screen : Screen} {title : List Char}
    (hascii : title.all Text.isAscii = true) (hlength : title.length ≤ screen.width)
    (hend : Text.dropEndWhile Text.isBlank title = title) : TitleFits screen title := by
  have hall : ∀ c ∈ title, Text.isAscii c = true := List.all_eq_true.mp hascii
  refine ⟨?_, fun _ => ?_, fun _ => ?_⟩
  · exact verbatim_of_printable fun c hc => Text.isPrintable_of_isAscii (hall c hc)
  · rwa [width_of_ascii hall]
  · rw [hend]
    exact List.prefix_append title _

theorem titleLines_of_fits {screen : Screen} {title : Cell} (h : TitleFits screen title.text) :
    ∃ line, titleLines screen title = [line] ∧ title.text <:+: line ∧
      ∀ c ∈ line, c = ' ' ∨ c ∈ title.text := by
  cases hsoft : screen.soft with
  | true =>
    refine ⟨title.text, ?_, List.infix_refl _, fun c hc => .inr hc⟩
    rw [titleLines, if_pos hsoft, Text.lines_of_not_mem h.verbatim.not_mem_feed, List.map_singleton,
      h.verbatim.expandTabs_eq]
  | false =>
    obtain ⟨dropped, hdropped, htitle⟩ := exists_dropExcess screen.width title.text
    have hsolid : Text.dropEndWhile Text.isBlank (dropExcess screen.width title.text) =
        Text.dropEndWhile Text.isBlank title.text := by
      conv_rhs => rw [htitle, Text.dropEndWhile_append_blanks _ hdropped]
    have hlines : titleLines screen title =
        [centre screen.width (dropExcess screen.width title.text)] := by
      rw [titleLines, hsoft, Cell.rows_of_verbatim h.verbatim (h.width_le hsoft)]
      rfl
    refine ⟨_, hlines, ?_, ?_⟩
    · rw [centre_eq, hsolid]
      exact (h.spaces hsoft).isInfix.trans (List.suffix_append _ _).isInfix
    · intro c hc
      rw [centre_eq, hsolid, List.mem_append, List.mem_append] at hc
      rcases hc with hleft | hsolid | hright
      · exact .inl (List.eq_of_mem_replicate hleft)
      · obtain ⟨trail, -, hwhole⟩ := Text.exists_dropEndWhile title.text
        exact .inr (hwhole ▸ List.mem_append_left trail hsolid)
      · exact .inl (List.eq_of_mem_replicate hright)

/-! ### Stains -/

theorem Cell.stain?_of_unstained {cell : Cell} (h : cell.stains = []) (size : Nat)
    (drawn : List Bool) : cell.stain? size drawn = none := by
  rw [Cell.stain?, h]
  rfl

theorem tableStain?_of_unstained {screen : Screen} {title : Cell} {columns : List Column}
    (htitle : title.stains = [])
    (hcells : ∀ column ∈ columns, ∀ cell ∈ column.cells, cell.stains = []) :
    tableStain? screen title columns = none := by
  have hfirst : titleStain? screen title = none := by
    unfold titleStain?
    split
    · exact Cell.stain?_of_unstained htitle _ _
    · exact Cell.stain?_of_unstained htitle _ _
  rw [tableStain?, hfirst, Option.none_or, List.findSome?_eq_none_iff]
  intro row hrow
  rw [List.findSome?_eq_none_iff]
  rintro ⟨size, cell⟩ hcell
  obtain ⟨i, -, rfl⟩ := List.mem_map.mp hrow
  obtain ⟨column, hcolumn, rfl⟩ := List.mem_map.mp (List.of_mem_zip hcell).2
  apply Cell.stain?_of_unstained
  rw [List.getD_eq_getElem?_getD]
  cases hget : column.cells[i]? with
  | none => rfl
  | some cell => exact hcells column hcolumn cell (List.mem_of_getElem? hget)

/-! ### Tables -/

/-- A table of texts that have room is drawn line by line: each of its rows is one line. -/
theorem tableLines_of_hasRoom {screen : Screen} {title : Cell} {columns : List Column}
    {height : Nat} (h : HasRoom screen.width height columns)
    (htitle : TitleFits screen title.text) :
    ∃ line, title.text <:+: line ∧ (∀ c ∈ line, c = ' ' ∨ c ∈ title.text) ∧
      tableLines screen title columns =
        [line, blankLine screen.width, pickedLine screen.width columns Column.header,
          rule screen.width] ++
        (List.range height).map (fun i => pickedLine screen.width columns (cellAt i)) ++
        [blankLine screen.width] := by
  obtain ⟨line, hline, hinfix, honly⟩ := titleLines_of_fits htitle
  have hrows : (rowsOf columns).flatMap (rowLines .top (shapeOf screen.width columns)) =
      (List.range height).map fun i => pickedLine screen.width columns (cellAt i) := by
    rw [h.rowsOf_eq, List.flatMap_map, List.map_eq_flatMap]
    refine List.flatMap_congr fun i hi => ?_
    exact rowLines_of_picks .top h (h.picks_cellAt (List.mem_range.mp hi))
  refine ⟨line, hinfix, honly, ?_⟩
  change titleLines screen title ++ _ ++ rowLines .bottom (shapeOf screen.width columns) _ ++ _ ++
    (rowsOf columns).flatMap (rowLines .top (shapeOf screen.width columns)) ++ _ = _
  rw [hline, rowLines_of_picks .bottom h h.picks_header, hrows]
  rfl

/-! ### The frame -/

/-- What tables and panels are drawn with, apart from their texts. -/
def frame : List Char :=
  [' ', '─', '│', '╭', '╮', '╰', '╯']

theorem mem_frame_of_mem_rule {size : Nat} {c : Char} (hc : c ∈ rule size) : c ∈ frame := by
  simp only [rule, List.cons_append, List.mem_cons, List.mem_append, List.mem_replicate,
    List.not_mem_nil, or_false] at hc
  simp only [frame, List.mem_cons]
  tauto

theorem mem_of_mem_panelLines {size : Nat} {text line : List Char} {c : Char}
    (hline : line ∈ panelLines size text) (hc : c ∈ line) : c ∈ frame ∨ c ∈ text := by
  simp only [panelLines, fill, List.mem_cons, List.not_mem_nil, or_false] at hline
  rcases hline with rfl | rfl | rfl
  all_goals
    simp only [List.cons_append, List.nil_append, List.mem_cons, List.mem_append,
      List.mem_replicate, List.not_mem_nil, or_false] at hc
    simp only [frame, List.mem_cons]
    tauto

end LintBridge.Terminal
