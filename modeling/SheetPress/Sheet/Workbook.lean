import SheetPress.Sheet.Worksheet
import SheetPress.Style.Registry

/-!
# Workbooks

Sheets in order with the styles that their cells refer to.
-/

namespace SheetPress

/-- A workbook. -/
structure Workbook where
  sheets : List Worksheet := []
  styles : StyleRegistry := .initial
  deriving Inhabited

namespace Workbook

/-- Appends an empty sheet. -/
def addSheet (b : Workbook) (name : String) : Workbook :=
  { b with sheets := b.sheets ++ [{ name }] }

/-- The names of the sheets in order. -/
def sheetNames (b : Workbook) : List String := b.sheets.map (·.name)

/-- The first sheet with a name. -/
def sheet? (b : Workbook) (name : String) : Option Worksheet := b.sheets.find? (·.name == name)

/-- The style with a number. -/
def style (b : Workbook) (id : Nat) : CellStyle := b.styles.get id

/-- The number of a style, which is registered first if it is new. -/
def registerStyle (b : Workbook) (style : CellStyle) : Nat × Workbook :=
  let (id, styles) := b.styles.getOrCreate style
  (id, { b with styles })

end Workbook

end SheetPress
