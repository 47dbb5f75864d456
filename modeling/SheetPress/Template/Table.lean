import SheetPress.Sheet.Edit
import SheetPress.Template.Error
import SheetPress.Template.Labels
import SheetPress.Template.TextTemplate

/-!
# The plan of a table

The first column of a template tells what each row is for. A header row opens columns, the rows below
it say which field fills a column, how its cells look and how they are colored. `compileTable` reads
all of this into a `TablePlan`; `TablePlan.strip` then takes the scaffolding out of the sheet.

Rows and columns are counted from 0, as everywhere. A column of the table has one place in the
template and another in the finished sheet, where the first column is gone.
-/

namespace SheetPress

/-- A cell of a sample row: how the cells of a column look on the rows that follow it. -/
structure Sample where
  row : Nat
  /-- The formula that is replayed on every row, with its leading `=`. -/
  formula : Option String
  style : Nat
  /-- The height of the sample row. -/
  height : Option Float
  deriving DecidableEq, Repr

/-- A column of the table. -/
structure TableColumn where
  /-- Its column in the template. -/
  templateCol : Nat
  header : String
  /-- The field that fills it, or a text template that does. -/
  dataField : String := ""
  /-- Whether `dataField` is a text template. -/
  isTemplate : Bool := false
  /-- A color, or a formula that gives one. -/
  backgroundColor : Option String := none
  fontColor : Option String := none
  samples : List Sample := []
  deriving DecidableEq, Repr

namespace TableColumn

/-- The letters of the column in the template. -/
def templateLabel (c : TableColumn) : String := columnName c.templateCol

/-- Its column in the finished sheet. -/
def renderCol (c : TableColumn) : Nat := c.templateCol - 1

/-- The letters of the column in the finished sheet. -/
def renderLabel (c : TableColumn) : String := columnName c.renderCol

/-- The sample for an index; samples take turns. -/
def sample? (c : TableColumn) (index : Nat) : Option Sample := c.samples[index % c.samples.length]?

/-- Whether colors depend on rules. -/
def hasColorRules (c : TableColumn) : Bool := c.backgroundColor.isSome || c.fontColor.isSome

end TableColumn

/-- A row of the template with a directive in its first cell. -/
structure DirectiveRow where
  kind : DirectiveKind
  row : Nat
  cells : List String
  deriving DecidableEq, Repr

/-- What the directive rows of a sheet say. -/
structure TablePlan where
  columns : List TableColumn := []
  /-- The directive rows from top to bottom. -/
  directives : List DirectiveRow := []
  /-- The row of the first record: the one below the first header row. -/
  firstRow : Option Nat := none
  deriving DecidableEq, Repr

/-! ## Merged regions -/

/-- A list made as long as a length by blanks at its end. -/
def padTo (length : Nat) (blank : α) (items : List α) : List α :=
  items ++ List.replicate (length - items.length) blank

/-- The text at a place of a table of texts; there is none outside. -/
def textAt (rows : List (List String)) (row col : Nat) : String :=
  ((rows[row]?).bind (·[col]?)).getD ""

/-- Copies the text in the first corner of a region to all of it; rows grow to reach it. -/
def fillMerged (rows : List (List String)) (region : Region) : List (List String) :=
  let text := textAt rows region.startRow region.startCol
  (padTo (region.endRow + 1) [] rows).mapIdx fun row cells =>
    if region.startRow ≤ row ∧ row ≤ region.endRow then
      (padTo (region.endCol + 1) "" cells).mapIdx fun col old =>
        if region.startCol ≤ col ∧ col ≤ region.endCol then text else old
    else cells

/-- Fills merged regions one after another. -/
def fillAllMerged (rows : List (List String)) (regions : List Region) : List (List String) :=
  regions.foldl fillMerged rows

/-! ## Reading directive rows -/

/-- A text without white space around it, if anything is left. -/
def nonBlank? (text : String) : Option String :=
  let trimmed := trimText text
  if trimmed.isEmpty then none else some trimmed

/-- What the cell of a directive row says about the column it stands in. -/
def TableColumn.tell (kind : DirectiveKind) (text : String) (c : TableColumn) : TableColumn :=
  match kind with
  | .dataField => { c with dataField := text, isTemplate := holdsAction text.toList }
  | .backgroundColor => { c with backgroundColor := nonBlank? text }
  | .fontColor => { c with fontColor := nonBlank? text }
  | .header | .data | .subtotal => c

/-- Reads one cell of a directive row. A cell in a column of the table tells about that column; in a
header row a cell that is not blank opens a column. -/
def readCell (kind : DirectiveKind) (col : Nat) (text : String) (columns : List TableColumn) :
    List TableColumn :=
  if columns.any (·.templateCol == col) then
    columns.map fun c => if c.templateCol = col then c.tell kind text else c
  else if kind = .header ∧ !isBlankText text then columns ++ [{ templateCol := col, header := text }]
  else columns

/-- Reads the cells of a directive row from a column on. -/
def readCells (sheet : String) (kind : DirectiveKind) (row : Nat) :
    Nat → List String → List TableColumn → Except TemplateError (List TableColumn)
  | _, [], columns => .ok columns
  | col, text :: rest, columns =>
    if col < maxColumns then readCells sheet kind row (col + 1) rest (readCell kind col text columns)
    else .error (.layout sheet (.columnPastEnd row col))

/-- The sample that a cell of the sheet gives. -/
def Worksheet.sample (w : Worksheet) (place : Coord) : Sample where
  row := place.row
  formula := w.formula? place
  style := w.style place
  height := w.rowHeights[place.row]?

/-- Takes the formula out of a cell. -/
def Worksheet.dropFormula (w : Worksheet) (place : Coord) : Worksheet :=
  if (w.formula? place).isSome then w.setFormula place "" else w

/-- Takes a sample row in: every column gets the sample below it, and formulas leave the sheet. -/
def takeSamples (row : Nat) (w : Worksheet) (columns : List TableColumn) :
    Worksheet × List TableColumn :=
  (columns.foldl (fun w c => w.dropFormula ⟨row, c.templateCol⟩) w,
    columns.map fun c => { c with samples := c.samples ++ [w.sample ⟨row, c.templateCol⟩] })

/-- Reads one row of the template; rows without a directive say nothing. -/
def readRow (labels : DirectiveLabels) (row : Nat) (cells : List String)
    (state : Worksheet × TablePlan) : Except TemplateError (Worksheet × TablePlan) :=
  let (w, plan) := state
  match cells.head?.bind labels.directive? with
  | none => .ok state
  | some kind =>
    if row ≥ maxRows then .error (.layout w.name (.rowPastEnd row))
    else
      let firstRow := if kind = .header then plan.firstRow.or (some (row + 1)) else plan.firstRow
      let directives := plan.directives ++ [⟨kind, row, cells⟩]
      match kind with
      | .data =>
        let (w, columns) := takeSamples row w plan.columns
        .ok (w, { columns, directives, firstRow })
      | kind =>
        (readCells w.name kind row 1 (cells.drop 1) plan.columns).map fun columns =>
          (w, { columns, directives, firstRow })

/-- Reads the rows of a template from a row on. -/
def readRows (labels : DirectiveLabels) :
    Nat → List (List String) → Worksheet × TablePlan → Except TemplateError (Worksheet × TablePlan)
  | _, [], state => .ok state
  | row, cells :: rest, state => do
    let state ← readRow labels row cells state
    readRows labels (row + 1) rest state

/-- Reads the plan of a table from the texts of a sheet. The formulas of sample cells are taken out
of the sheet. -/
def compileTable (labels : DirectiveLabels) (w : Worksheet) (rows : List (List String)) :
    Except TemplateError (Worksheet × TablePlan) :=
  readRows labels 0 rows (w, {})

namespace TablePlan

/-- The directive rows of one kind. -/
def directivesOf (plan : TablePlan) (kind : DirectiveKind) : List DirectiveRow :=
  plan.directives.filter (·.kind == kind)

/-- The column at a column of the template. -/
def column? (plan : TablePlan) (templateCol : Nat) : Option TableColumn :=
  plan.columns.find? (·.templateCol == templateCol)

/-- How many directive rows stay in the sheet: the header, and two that make room for records. -/
def keptRows : Nat := 3

/-- Deletes the directive rows that do not stay, from the bottom up, and the first column. -/
def strip (plan : TablePlan) (w : Worksheet) : Worksheet :=
  ((plan.directives.drop keptRows).reverse.foldl (fun w d => w.removeRow d.row) w).removeCol 0

end TablePlan

end SheetPress
