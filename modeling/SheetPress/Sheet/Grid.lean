import SheetPress.Cell.Basic
import SheetPress.Coord.Region
import Std.Data.ExtTreeMap

/-!
# Grids

The cells of one sheet. Only cells that were written are stored; the largest row and column in use
are kept beside them.
-/

namespace SheetPress

/-- Stored cells by place, in reading order. -/
abbrev CellMap := Std.ExtTreeMap Coord Cell

/-- The cells of a sheet with the largest row and column in use, 0 if there are none. -/
structure Grid where
  cells : CellMap := ∅
  maxRow : Nat := 0
  maxCol : Nat := 0
  deriving Inhabited

namespace Grid

/-- The cell stored at a place. -/
def get? (g : Grid) (place : Coord) : Option Cell := g.cells[place]?

/-- Whether no cell is stored. -/
def isEmpty (g : Grid) : Bool := g.cells.isEmpty

/-- Stored cells with their places, in reading order. -/
def toList (g : Grid) : List (Coord × Cell) := g.cells.toList

/-- The number of stored cells. -/
def size (g : Grid) : Nat := g.cells.size

/-- Stores a cell. -/
def set (g : Grid) (place : Coord) (cell : Cell) : Grid where
  cells := g.cells.insert place cell
  maxRow := max g.maxRow place.row
  maxCol := max g.maxCol place.col

/-- Changes the cell at a place; where none is stored, a blank one is changed. -/
def update (g : Grid) (place : Coord) (f : Cell → Cell) : Grid :=
  g.set place (f ((g.get? place).getD {}))

/-- Recomputes the largest row and column from the stored cells. -/
def tighten (g : Grid) : Grid where
  cells := g.cells
  maxRow := g.toList.foldl (fun m (place, _) => max m place.row) 0
  maxCol := g.toList.foldl (fun m (place, _) => max m place.col) 0

/-- Removes the cell at a place. The bounds are recomputed only if the place was on one. -/
def erase (g : Grid) (place : Coord) : Grid :=
  let rest : Grid := { g with cells := g.cells.erase place }
  if place.row = g.maxRow ∨ place.col = g.maxCol then rest.tighten else rest

/-- Moves every cell to the place that `f` gives for its own; cells without one are dropped. -/
def rekey (g : Grid) (f : Coord → Option Coord) : Grid :=
  let moved := g.toList.filterMap fun (place, cell) => (f place).map fun target => (target, cell)
  tighten { cells := moved.foldl (fun cells (target, cell) => cells.insert target cell) ∅ }

/-- Changes every stored cell in its place. -/
def mapCells (g : Grid) (f : Cell → Cell) : Grid := { g with cells := g.cells.map fun _ => f }

end Grid

end SheetPress
