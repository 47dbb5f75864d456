import SheetPress.Evaluation.Value
import SheetPress.Formula.Expr
import SheetPress.Sheet.Grid

/-!
# What references see

A scope holds the cells that an expression can refer to: those of its own sheet and those of the
sheets it can name. `Scope.visit?` lists the cells that a reference covers.
-/

namespace SheetPress

/-- The cells of the sheet of an expression, and of other sheets by name. -/
structure Scope where
  here : Grid
  sheet? : String → Option Grid

namespace Scope

/-- A scope with no sheet to name. -/
def single (grid : Grid) : Scope := ⟨grid, fun _ => none⟩

/-- A scope with named sheets. Names count but for case, and of two equal ones the last. -/
def ofSheets (here : Grid) (sheets : List (String × Grid)) : Scope :=
  let named := sheets.map fun (name, grid) => (toUpperText name, grid)
  ⟨here, fun name => named.reverse.lookup (toUpperText name)⟩

/-- The cells of the sheet that a reference is to. -/
def grid? (scope : Scope) : Option String → Option Grid
  | none => some scope.here
  | some name => scope.sheet? name

end Scope

/-- The place that a reference to a cell names. -/
def CellRef.place (r : CellRef) : Coord := Coord.ofLetters r.column r.row

/-- The numbers from one to another, both included. -/
def between (low high : Nat) : List Nat := List.range' low (high + 1 - low)

namespace Grid

/-- The cells of the rectangle between two places, row by row, with gaps. -/
def inRectangle (g : Grid) (a b : Coord) : List (Option Cell) :=
  (between (min a.row b.row) (max a.row b.row)).flatMap fun row =>
    (between (min a.col b.col) (max a.col b.col)).map fun col => g.get? ⟨row, col⟩

/-- The stored cells of some columns, column by column. -/
def inColumns (g : Grid) (a b : Nat) : List Cell :=
  let hits := g.toList.filter fun (place, _) => min a b ≤ place.col && place.col ≤ max a b
  let columns := hits.mergeSort fun (p, _) (q, _) =>
    p.col < q.col || (p.col == q.col && p.row ≤ q.row)
  columns.map (·.2)

/-- The stored cells of some rows, row by row. -/
def inRows (g : Grid) (a b : Nat) : List Cell :=
  (g.toList.filter fun (place, _) => min a b ≤ place.row && place.row ≤ max a b).map (·.2)

end Grid

namespace Expr

/-- Whether an expression is a reference. -/
def isReference : Expr → Bool
  | cell .. => true
  | range .. => true
  | columns .. => true
  | rows .. => true
  | _ => false

/-- The cells that a reference covers, in the order they are visited. A cell and a rectangle give a
place for every cell, whole columns and rows only the stored cells. Nothing is given for a sheet
that is not there, nor for what is no reference. -/
def visit? (scope : Scope) : Expr → Option (List (Option Cell))
  | cell sheet ref => (scope.grid? sheet).map fun g => [g.get? ref.place]
  | range sheet first last => (scope.grid? sheet).map (·.inRectangle first.place last.place)
  | columns sheet first last =>
    (scope.grid? sheet).map fun g =>
      (g.inColumns (columnIndex first.column.toList) (columnIndex last.column.toList)).map some
  | rows sheet first last =>
    (scope.grid? sheet).map fun g => (g.inRows (first - 1) (last - 1)).map some
  | _ => none

end Expr

end SheetPress
