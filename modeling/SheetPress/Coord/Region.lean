import SheetPress.Coord.Basic

/-!
# Regions

Rectangles of cells, both corners included.
-/

namespace SheetPress

/-- A rectangle of cells between two corners. -/
structure Region where
  startRow : Nat
  startCol : Nat
  endRow : Nat
  endCol : Nat
  deriving DecidableEq, Repr

namespace Region

/-- The rectangle spanned by two opposite corners, given in any order. -/
def ofCorners (a b : Coord) : Region where
  startRow := min a.row b.row
  startCol := min a.col b.col
  endRow := max a.row b.row
  endCol := max a.col b.col

/-- Whether a cell lies in a region. -/
def contains (r : Region) (row col : Nat) : Bool :=
  r.startRow ≤ row && row ≤ r.endRow && r.startCol ≤ col && col ≤ r.endCol

/-- Whether a region is a single cell. -/
def isSingleCell (r : Region) : Bool := r.startRow == r.endRow && r.startCol == r.endCol

/-- The corners of a region, as in `A1:C3`. -/
def text (r : Region) : String :=
  (Coord.mk r.startRow r.startCol).address ++ ":" ++ (Coord.mk r.endRow r.endCol).address

/-- Reads two addresses with a colon between them, or one address as a region of one cell. -/
def parse? (text : String) : Option Region :=
  match splitAtFirst? [':'] text.toList with
  | some (first, second) => do
    let a ← Coord.parse? first
    let b ← Coord.parse? second
    some (ofCorners a b)
  | none => (Coord.parse? text.toList).map fun c => ofCorners c c

end Region

end SheetPress
