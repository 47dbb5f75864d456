import SheetPress.Formula.Shift
import SheetPress.Sheet.Worksheet

/-!
# Inserting and deleting lines

When rows are inserted, or a row or a column is deleted, everything behind moves: cells, heights and
widths, merged regions and the filtered region, and the references of all formulas of the sheet.
-/

namespace SheetPress

/-- Where a line is after `count` lines were inserted in front of line `start`. -/
def movedByInsert (start count line : Nat) : Nat := if line ≥ start then line + count else line

/-- Where a line is after another one was deleted; the deleted line is nowhere. -/
def movedByRemove (removed line : Nat) : Option Nat :=
  match compare line removed with
  | .lt => some line
  | .eq => none
  | .gt => some (line - 1)

/-- A span of lines after another line was deleted; a span of that line only is nothing. -/
def shrinkSpan (first last removed : Nat) : Option (Nat × Nat) :=
  if removed > last then some (first, last)
  else if removed < first then some (first - 1, last - 1)
  else if first = last then none
  else some (first, last - 1)

/-- Sizes with each line moved by `f`. -/
def LineSizes.rekey (sizes : LineSizes) (f : Nat → Option Nat) : LineSizes :=
  (sizes.toList.filterMap fun (line, size) => (f line).map fun target => (target, size)).foldl
    (fun sizes (target, size) => sizes.insert target size) ∅

namespace Region

/-- A region after rows were inserted: it moves if it begins behind them and grows around them. -/
def insertRows (start count : Nat) (r : Region) : Region :=
  if r.startRow ≥ start then
    { r with startRow := r.startRow + count, endRow := r.endRow + count }
  else if r.endRow ≥ start then { r with endRow := r.endRow + count }
  else r

/-- A region after a row was deleted. -/
def removeRow? (removed : Nat) (r : Region) : Option Region :=
  (shrinkSpan r.startRow r.endRow removed).map fun (first, last) =>
    { r with startRow := first, endRow := last }

/-- A region after a column was deleted. -/
def removeCol? (removed : Nat) (r : Region) : Option Region :=
  (shrinkSpan r.startCol r.endCol removed).map fun (first, last) =>
    { r with startCol := first, endCol := last }

end Region

/-- A cell with its formula edited. -/
def Cell.mapFormula (f : String → String) (cell : Cell) : Cell :=
  { cell with formula := cell.formula.map f }

namespace Worksheet

/-- Inserts `count` empty rows in front of row `start`. -/
def insertRows (w : Worksheet) (start count : Nat) : Worksheet :=
  if count = 0 then w
  else
    { w with
      grid := (w.grid.rekey fun c => some { c with row := movedByInsert start count c.row }).mapCells
        (·.mapFormula fun f => shiftRowsForInsert f start count)
      rowHeights := w.rowHeights.rekey fun row => some (movedByInsert start count row)
      merged := w.merged.map (·.insertRows start count)
      filter := w.filter.map (·.insertRows start count) }

/-- Deletes a row. A merged region that is left with one cell is merged no more. -/
def removeRow (w : Worksheet) (removed : Nat) : Worksheet :=
  { w with
    grid := (w.grid.rekey fun c => (movedByRemove removed c.row).map fun row => { c with row }).mapCells
      (·.mapFormula fun f => shiftRowsForRemove f removed)
    rowHeights := w.rowHeights.rekey (movedByRemove removed)
    merged := (w.merged.filterMap (·.removeRow? removed)).filter (! ·.isSingleCell)
    filter := w.filter.bind (·.removeRow? removed) }

/-- Deletes a column. A merged region that is left with one cell is merged no more. -/
def removeCol (w : Worksheet) (removed : Nat) : Worksheet :=
  { w with
    grid := (w.grid.rekey fun c => (movedByRemove removed c.col).map fun col => { c with col }).mapCells
      (·.mapFormula fun f => shiftColsForRemove f removed)
    columnWidths := w.columnWidths.rekey (movedByRemove removed)
    merged := (w.merged.filterMap (·.removeCol? removed)).filter (! ·.isSingleCell)
    filter := w.filter.bind (·.removeCol? removed) }

end Worksheet

end SheetPress
