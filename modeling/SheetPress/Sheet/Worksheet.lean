import SheetPress.Sheet.Grid

/-!
# Worksheets

A sheet is its cells and the layout that goes with rows and columns: heights, widths, merged regions
and the filtered region. Writing a value keeps the style of its cell.
-/

namespace SheetPress

/-- Sizes of rows or columns that differ from the usual one, by line. -/
abbrev LineSizes := Std.ExtTreeMap Nat Float

/-- A sheet of a workbook. -/
structure Worksheet where
  name : String
  grid : Grid := {}
  /-- Row heights in points. -/
  rowHeights : LineSizes := ∅
  /-- Column widths in characters. -/
  columnWidths : LineSizes := ∅
  merged : List Region := []
  filter : Option Region := none
  deriving Inhabited

namespace Worksheet

/-! ## Reading -/

/-- The cell stored at a place. -/
def cell? (w : Worksheet) (place : Coord) : Option Cell := w.grid.get? place

/-- The value at a place; where no cell is stored it is empty. -/
def value (w : Worksheet) (place : Coord) : CellValue := ((w.cell? place).map (·.value)).getD .empty

/-- The formula at a place. -/
def formula? (w : Worksheet) (place : Coord) : Option String := (w.cell? place).bind (·.formula)

/-- The number of the style at a place. -/
def style (w : Worksheet) (place : Coord) : Nat := ((w.cell? place).map (·.style)).getD 0

/-- A row of texts with the text at `col` replaced; the row grows to reach it. -/
def setText (row : List String) (col : Nat) (text : String) : List String :=
  (row ++ List.replicate (col + 1 - row.length) "").set col text

/-- The display texts of a sheet: a list for every row down to the last one in use, each as long as
its last text that is not empty. -/
def textRows (w : Worksheet) : List (List String) :=
  if w.grid.isEmpty then []
  else
    w.grid.toList.foldl
      (fun rows (place, cell) =>
        let text := cell.display
        if text.isEmpty then rows else rows.modify place.row (setText · place.col text))
      (List.replicate (w.grid.maxRow + 1) [])

/-! ## Writing -/

/-- Writes a value. A formula in the cell is dropped. -/
def setValue (w : Worksheet) (place : Coord) (value : CellValue) : Worksheet :=
  { w with grid := w.grid.update place fun cell => { cell with formula := none, value } }

/-- Writes a formula; the value it had before is forgotten. A blank text removes the formula of a
stored cell and leaves its value alone. -/
def setFormula (w : Worksheet) (place : Coord) (formula : String) : Worksheet :=
  if isBlankText formula then
    match w.cell? place with
    | some cell =>
      { w with grid := { w.grid with cells := w.grid.cells.insert place { cell with formula := none } } }
    | none => w
  else
    { w with grid := w.grid.update place fun cell =>
        { cell with formula := some (withEquals formula), value := .empty } }

/-- Gives a cell another style. -/
def setStyle (w : Worksheet) (place : Coord) (style : Nat) : Worksheet :=
  { w with grid := w.grid.update place (·.withStyle style) }

/-- Clears the contents of a cell. Its style is kept, but a cell in the default style is removed. -/
def clearCell (w : Worksheet) (place : Coord) : Worksheet :=
  match w.cell? place with
  | none => w
  | some cell =>
    let cleared : Cell := { cell with formula := none, value := .empty }
    let kept : Grid := { w.grid with cells := w.grid.cells.insert place cleared }
    { w with grid := if cleared.isBlank then kept.erase place else kept }

/-- Clears the contents of every cell of a row. -/
def clearRow (w : Worksheet) (row : Nat) : Worksheet :=
  let places := (w.grid.toList.map (·.1)).filter (·.row == row)
  places.foldl clearCell w

/-- Sets the height of a row. -/
def setRowHeight (w : Worksheet) (row : Nat) (height : Float) : Worksheet :=
  { w with rowHeights := w.rowHeights.insert row height }

/-- Sets the width of a column. -/
def setColumnWidth (w : Worksheet) (col : Nat) (width : Float) : Worksheet :=
  { w with columnWidths := w.columnWidths.insert col width }

/-- Merges a region, unless it is merged already. -/
def addMerged (w : Worksheet) (region : Region) : Worksheet :=
  if region ∈ w.merged then w else { w with merged := w.merged ++ [region] }

end Worksheet

end SheetPress
