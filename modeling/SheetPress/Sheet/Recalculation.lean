import SheetPress.Evaluation.Basic
import SheetPress.Sheet.Workbook

/-!
# Recalculation

The values of formula cells are computed anew in passes. A pass evaluates every formula against the
values that the pass before left, and passes follow until one changes nothing. A chain of `n`
formulas settles within `n + 1` passes, which is the bound.
-/

namespace SheetPress

/-- The value that a formula gives in a scope; a formula that is not well formed gives an error. -/
def formulaValue (scope : Scope) (formula : String) : CellValue :=
  match parseFormula formula with
  | .ok e => (e.eval scope).toCell
  | .error _ => .error .malformed

/-- A cell after its formula was evaluated. A new value that agrees with the old one leaves the old
one in place. -/
def Cell.recalculate (scope : Scope) (cell : Cell) : Cell :=
  match cell.formula with
  | none => cell
  | some formula =>
    let value := formulaValue scope formula
    if cell.value.agrees value then cell else { cell with value }

/-- Whether evaluating the formula of a cell would change its value. -/
def Cell.isStale (scope : Scope) (cell : Cell) : Bool :=
  cell.formula.any fun formula => !cell.value.agrees (formulaValue scope formula)

namespace Workbook

/-- The scope of the formulas of one sheet: they can name every sheet. -/
def scopeOf (b : Workbook) (sheet : Worksheet) : Scope :=
  .ofSheets sheet.grid (b.sheets.map fun s => (s.name, s.grid))

/-- The workbook after one pass. -/
def recalculateOnce (b : Workbook) : Workbook :=
  { b with sheets := b.sheets.map fun sheet =>
      { sheet with grid := sheet.grid.mapCells (Cell.recalculate (b.scopeOf sheet)) } }

/-- Whether a pass would change anything. -/
def isStale (b : Workbook) : Bool :=
  b.sheets.any fun sheet =>
    let scope := b.scopeOf sheet
    sheet.grid.toList.any fun (_, cell) => cell.isStale scope

/-- The number of formula cells. -/
def formulaCount (b : Workbook) : Nat :=
  (b.sheets.flatMap (·.grid.toList)).countP fun (_, cell) => cell.hasFormula

/-- Passes over a workbook, at most a given number. -/
def recalculatePasses : Nat → Workbook → Workbook
  | 0, b => b
  | passes + 1, b => if b.isStale then recalculatePasses passes b.recalculateOnce else b

/-- Recalculates every formula cell of every sheet. -/
def recalculate (b : Workbook) : Workbook := recalculatePasses (b.formulaCount + 1) b

end Workbook

end SheetPress
