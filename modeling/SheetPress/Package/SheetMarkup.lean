import SheetPress.Markup.Tree
import SheetPress.Package.Basic
import SheetPress.Package.CharacterCode
import SheetPress.Package.FormulaMarkup
import SheetPress.Package.StyleMarkup
import SheetPress.Sheet.Workbook

/-!
# The markup of sheets

A sheet is written in two steps. `Worksheet.written` turns it into what a package can hold: cells
whose places exist, merged regions that do not overlap, sizes that differ from the usual ones.
`sheetMarkup` writes that down, with styles and texts by their numbers.
-/

namespace SheetPress

/-! ## Cells -/

/-- What a cell of a package holds. -/
inductive CellContent where
  | blank
  | number (x : Float)
  | boolean (b : Bool)
  | text (s : String)
  | formula (f : PackageFormula) (result : String)
  deriving DecidableEq, Repr

/-- A cell of a package with its style. -/
structure WrittenCell where
  content : CellContent
  style : CellStyle
  deriving DecidableEq, Repr

/-- The longest text of a cell. -/
def maxTextLength : Nat := 32767

namespace CellContent

/-- A text as the content of a cell. An empty one is none, and one that is too long does not fit. -/
def ofText (s : String) : Except WriteFault CellContent :=
  if s.isEmpty then .ok .blank
  else if s.length ≤ maxTextLength then .ok (.text s)
  else .error (.textTooLong s.length)

/-- A number as the content of a cell. What is not a number is written as the text of an error. -/
def ofNumber (x : Float) : CellContent :=
  if x.isNaN then .text CellError.number.code else .number x

/-- The result of a formula as a package holds it: the text that a cell shows, or 0 if that is
empty. -/
def resultText (value : CellValue) : String :=
  if value.display.isEmpty then "0" else value.display

/-- The content of a cell. A formula comes before the value, and an error is written as a text. -/
def ofCell (cell : Cell) : Except WriteFault CellContent :=
  match cell.formula with
  | some f => .ok (.formula (PackageFormula.ofText f) (resultText cell.value))
  | none =>
    match cell.value with
    | .empty => .ok .blank
    | .number x => .ok (ofNumber x)
    | .text s => ofText s
    | .boolean b => .ok (.boolean b)
    | .error e => .ok (.text e.code)

end CellContent

/-- Whether a cell is written without its style: a formula that spills, or what is not a number. -/
def Cell.losesStyle (cell : Cell) : Bool :=
  match cell.formula, cell.value with
  | some f, _ => (PackageFormula.ofText f).spills
  | none, .number x => x.isNaN
  | none, _ => false

/-! ## Sheets -/

/-- A sheet as a package holds it. -/
structure WrittenSheet where
  cells : Std.ExtTreeMap Coord WrittenCell := ∅
  rowHeights : LineSizes := ∅
  columnWidths : LineSizes := ∅
  merged : List Region := []
  filter : Option Region := none

/-- The numbers that columns have in a package: 16 bits, so larger ones start again from 0. -/
def columnNumbers : Nat := powerOfTwo 16

/-- The column of a package for a column of a sheet. -/
def packageColumn (col : Nat) : Except WriteFault Nat :=
  if col % columnNumbers < maxColumns then .ok (col % columnNumbers) else .error .outsideSheet

/-- The row of a package for a row of a sheet. -/
def packageRow (row : Nat) : Except WriteFault Nat :=
  if row < maxRows then .ok row else .error .outsideSheet

/-- The place in a package for a place of a sheet. -/
def packagePlace (place : Coord) : Except WriteFault Coord := do
  let row ← packageRow place.row
  let col ← packageColumn place.col
  .ok ⟨row, col⟩

/-- The region in a package for a region of a sheet. -/
def packageRegion (r : Region) : Except WriteFault Region := do
  let first ← packagePlace ⟨r.startRow, r.startCol⟩
  let last ← packagePlace ⟨r.endRow, r.endCol⟩
  if first.row ≤ last.row ∧ first.col ≤ last.col then
    .ok ⟨first.row, first.col, last.row, last.col⟩
  else .error (.invertedRegion r)

/-- Whether two regions have a cell in common. -/
def Region.overlaps (a b : Region) : Bool :=
  a.startRow ≤ b.endRow && b.startRow ≤ a.endRow && a.startCol ≤ b.endCol && b.startCol ≤ a.endCol

/-- The places of a region in reading order. -/
def Region.places (r : Region) : List Coord :=
  (List.range' r.startRow (r.endRow + 1 - r.startRow)).flatMap fun row =>
    (List.range' r.startCol (r.endCol + 1 - r.startCol)).map fun col => ⟨row, col⟩

namespace WrittenSheet

/-- Puts a cell in the place of another one. -/
def put (s : WrittenSheet) (place : Coord) (cell : WrittenCell) : WrittenSheet :=
  { s with cells := s.cells.insert place cell }

/-- Fills a region with blank cells. Cells in the usual style need not be there. -/
def fill (s : WrittenSheet) (style : CellStyle) (region : Region) : WrittenSheet :=
  if style = {} then s
  else region.places.foldl (fun s place => s.put place ⟨.blank, style⟩) s

/-- Takes in a merged region in the style of its first cell. Single cells are not merged. -/
def merge (style : CellStyle) (s : WrittenSheet) (region : Region) :
    Except WriteFault WrittenSheet := do
  let region ← packageRegion region
  if region.isSingleCell then .ok s
  else if s.merged.any (·.overlaps region) then .error (.overlappingMerges region)
  else .ok { s.fill style region with merged := s.merged ++ [region] }

/-- The cells that have to be written: blank ones only if they have a style of their own. -/
def visibleCells (s : WrittenSheet) : List (Coord × WrittenCell) :=
  s.cells.toList.filter fun (_, cell) => cell.content ≠ .blank ∨ cell.style ≠ {}

/-- The texts of the cells. -/
def texts (s : WrittenSheet) : List String :=
  s.visibleCells.filterMap fun (_, cell) =>
    match cell.content with
    | .text t => some t
    | _ => none

end WrittenSheet

namespace Worksheet

/-- The style with a number as a package can say it. -/
def writtenStyle (styles : StyleRegistry) (id : Nat) : CellStyle := (styles.get id).normalized

/-- The style that a cell is written with, if it does not lose its own. -/
def writtenCellStyle? (styles : StyleRegistry) (cell : Cell) : Option CellStyle :=
  if cell.losesStyle then none else some (writtenStyle styles cell.style)

/-- The regions of a sheet that have to be merged. -/
def mergedRegions (w : Worksheet) : List Region := w.merged.filter (! ·.isSingleCell)

/-- The styles of a sheet in the order in which a package first needs them: those of merged regions
come before those of cells. -/
def usedStyles (w : Worksheet) (styles : StyleRegistry) : List CellStyle :=
  (w.mergedRegions.map fun r => writtenStyle styles (w.style ⟨r.startRow, r.startCol⟩))
    ++ w.grid.toList.filterMap fun (_, cell) => writtenCellStyle? styles cell

/-- Takes in a cell of a sheet. -/
def writeCell (styles : StyleRegistry) (s : WrittenSheet) (place : Coord) (cell : Cell) :
    Except WriteFault WrittenSheet := do
  let place ← packagePlace place
  let content ← CellContent.ofCell cell
  .ok (s.put place ⟨content, (writtenCellStyle? styles cell).getD {}⟩)

/-- Sizes with their lines as a package has them. -/
def writtenSizes (line : Nat → Except WriteFault Nat) (sizes : LineSizes) :
    Except WriteFault LineSizes :=
  sizes.toList.foldlM (fun written (i, size) => do
    let i ← line i
    .ok (written.insert i size)) ∅

/-- A sheet as a package holds it. -/
def written (w : Worksheet) (styles : StyleRegistry) : Except WriteFault WrittenSheet := do
  let columnWidths ← writtenSizes packageColumn w.columnWidths
  let rowHeights ← writtenSizes packageRow w.rowHeights
  let filter ← w.filter.mapM packageRegion
  let merged ← w.mergedRegions.foldlM (fun s r =>
    WrittenSheet.merge (writtenStyle styles (w.style ⟨r.startRow, r.startCol⟩)) s r)
    { columnWidths, rowHeights, filter }
  w.grid.toList.foldlM (fun s (place, cell) => writeCell styles s place cell) merged

end Worksheet

/-! ## Markup -/

/-- The texts of a package with their numbers. -/
structure TextNumbers where
  number : Std.ExtTreeMap String Nat := ∅
  /-- The texts in reverse order. -/
  reversed : List String := []

/-- The numbers of texts, equal ones having one number. -/
def TextNumbers.ofTexts (texts : List String) : TextNumbers :=
  texts.foldl (fun t text =>
    if t.number.contains text then t
    else { number := t.number.insert text t.number.size, reversed := text :: t.reversed }) {}

/-- An element that holds a text, with control characters by their codes. -/
def codedNode (name text : String) : MarkupNode :=
  .element name [] [.text (String.ofList (codeControls text.toList))]

/-- The element of the value of a cell. -/
def valueNode (text : String) : MarkupNode := codedNode "v" text

/-- The element of a cell. The result of a formula that reads as a number is one. -/
def cellNode (styles : StyleRegistry) (texts : TextNumbers) (place : Coord) (cell : WrittenCell) :
    MarkupNode :=
  let style := (styles.number? cell.style).getD 0
  let values := ("r", place.address) :: if style = 0 then [] else [("s", natText style)]
  match cell.content with
  | .blank => .leaf "c" values
  | .number x => .element "c" values [valueNode (numberText x)]
  | .boolean b => .element "c" (values ++ [("t", "b")]) [valueNode (if b then "1" else "0")]
  | .text s =>
    .element "c" (values ++ [("t", "s")]) [valueNode (natText ((texts.number[s]?).getD 0))]
  | .formula f result =>
    let kind := if (readNumber? result.toList).isSome then [] else [("t", "str")]
    .element "c" (values ++ kind) [codedNode "f" f.text, valueNode result]

/-- The usual height of a row in points. -/
def usualRowHeight : Float := 15.0

/-- What the tag of a row says about its height. A row of no height is hidden. -/
def heightValues (height : Option Float) : List (String × String) :=
  match height with
  | none => []
  | some height =>
    if height == 0.0 then [("hidden", "1")]
    else if height == usualRowHeight then []
    else [("ht", numberText height), ("customHeight", "1")]

/-- The cells of rows, and the rows that have a height. -/
def rowsOfSheet (s : WrittenSheet) : Std.ExtTreeMap Nat (List (Coord × WrittenCell)) :=
  s.rowHeights.toList.foldl (fun rows (row, _) => rows.insertIfNew row [])
    (s.visibleCells.foldr (fun (place, cell) rows =>
      rows.insert place.row ((place, cell) :: (rows[place.row]?).getD [])) ∅)

/-- The element of a row. -/
def rowNode (styles : StyleRegistry) (texts : TextNumbers) (s : WrittenSheet) (row : Nat)
    (cells : List (Coord × WrittenCell)) : MarkupNode :=
  .element "row" (("r", natText (row + 1)) :: heightValues s.rowHeights[row]?)
    (cells.map fun (place, cell) => cellNode styles texts place cell)

/-- The largest width of a column. -/
def maxColumnWidth : Float := 255.0

/-- The width of a column in pixels. A digit has 7 of them, and there is a margin of 5 around the
digits, of which columns narrower than a digit have a part. -/
def columnPixels (width : Float) : Float :=
  if width < 1.0 then truncate (width * 12.0 + 0.5) else truncate (width * 7.0 + 0.5) + 5.0

/-- The width of a column in the units of a package: its pixels in digits, cut to a 256th. Only widths
from 0 on have one, others stay as they are. -/
def packageWidth (width : Float) : Float :=
  if 0.0 ≤ width then
    let pixels := columnPixels (if maxColumnWidth < width then maxColumnWidth else width)
    truncate (pixels / 7.0 * 256.0) / 256.0
  else width

/-- A run of columns of one width. -/
structure ColumnRun where
  first : Nat
  last : Nat
  width : Float

/-- Columns in order as runs. -/
def columnRuns : List (Nat × Float) → List ColumnRun
  | [] => []
  | (col, width) :: rest =>
    match columnRuns rest with
    | run :: runs =>
      if run.first = col + 1 ∧ (run.width == width) = true then { run with first := col } :: runs
      else ⟨col, col, width⟩ :: run :: runs
    | [] => [⟨col, col, width⟩]

/-- The element of a run of columns. -/
def columnNode (run : ColumnRun) : MarkupNode :=
  .leaf "col" [("min", natText (run.first + 1)), ("max", natText (run.last + 1)),
    ("width", numberText (packageWidth run.width)), ("customWidth", "1")]

/-- An element for a list, left out if the list is empty. -/
def listNodes (name : String) (children : List MarkupNode) : List MarkupNode :=
  if children.isEmpty then [] else [.element name [] children]

/-- The markup of a sheet. -/
def sheetMarkup (styles : StyleRegistry) (texts : TextNumbers) (s : WrittenSheet) : String :=
  renderDocument (.element "worksheet" []
    (listNodes "cols" ((columnRuns s.columnWidths.toList).map columnNode)
      ++ [.element "sheetData" []
        ((rowsOfSheet s).toList.map fun (row, cells) => rowNode styles texts s row cells)]
      ++ (s.filter.map fun region => MarkupNode.leaf "autoFilter" [("ref", region.text)]).toList
      ++ listNodes "mergeCells" (s.merged.map fun region => .leaf "mergeCell" [("ref", region.text)])))

end SheetPress
