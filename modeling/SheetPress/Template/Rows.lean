import SheetPress.Template.ColorRules
import SheetPress.Template.Retarget
import SheetPress.Template.Subtotal

/-!
# Writing the rows of a table

When its plan has been taken out of a sheet, two rows are left below the header. `reserveRows` makes
room for the records there, and `writeRows` fills in a row for each: replayed formulas, rendered
texts or plain fields, in the style of the sample. When something goes wrong, the sheet stays as far
as it was written.
-/

namespace SheetPress

/-- A sheet while a table is written into it, with the styles of its workbook. -/
structure TableState where
  sheet : Worksheet
  styles : StyleRegistry
  resolver : StyleResolver := {}

/-- What writing leaves behind: the sheet, and what went wrong, if anything did. -/
structure WriteOutcome where
  state : TableState
  failure : Option TemplateError := none

/-- How a table is written. -/
structure TableJob where
  plan : TablePlan
  /-- The row of the first record. -/
  firstRow : Nat
  functions : FunctionTable

/-- How far references of sample formulas move: the first column of the template is gone. -/
def renderShift : Int := -1

/-- How many rows below the header are there before any are reserved. -/
def readyRows : Nat := 2

/-- The complaint about a column of a sheet without samples. -/
def TableColumn.withoutSamples (sheet : String) (c : TableColumn) : TemplateError :=
  .missingSamples sheet c.templateLabel

/-- What is wrong with the samples of a plan: the first column that has none. -/
def TablePlan.sampleFault? (plan : TablePlan) (sheet : String) : Option TemplateError :=
  (plan.columns.find? (·.samples.isEmpty)).map (·.withoutSamples sheet)

/-- Whether some records fit on the sheet from a row on. -/
def tableFits (firstRow count : Nat) : Bool := count == 0 || firstRow + count ≤ maxRows

/-- Makes room for records from row `first` on: rows are inserted between the two that are there, or
those not needed are cleared. -/
def reserveRows (first count : Nat) (w : Worksheet) : Worksheet :=
  match count with
  | 0 => (w.clearRow first).clearRow (first + 1)
  | 1 => w.clearRow (first + 1)
  | count => w.insertRows (first + 1) (count - readyRows)

/-- Writes the content of a cell: the formula of its sample, its text template, or its field. -/
def writeContent (functions : FunctionTable) (w : Worksheet) (place : Coord) (column : TableColumn)
    (sample : Sample) (record : Record) : Except TemplateError Worksheet :=
  match sample.formula with
  | some formula =>
    (retargetFormula formula (place.row + 1) renderShift).map fun moved => w.setFormula place moved
  | none =>
    if column.isTemplate then
      (renderText functions record.toJson column.dataField).map fun text =>
        w.setValue place (.text text)
    else
      match record.field? column.dataField with
      | some (.formula formula) => .ok (w.setFormula place formula)
      | some value => .ok (w.setValue place value.toCell)
      | none => .ok (w.clearCell place)

/-- Writes the cell of a subtotal record, which holds a formula or a label and nothing else. -/
def writeSubtotal (w : Worksheet) (place : Coord) (column : TableColumn) (record : Record) :
    Worksheet :=
  let w := w.clearCell place
  match record.field? column.dataField with
  | some (.formula formula) => w.setFormula place formula
  | some (.text text) => if byteCount text > 1 then w.setValue place (.text text) else w
  | _ => w

/-- The sample that a record at a position follows. -/
def Record.sampleIndex (record : Record) (position : Nat) : Nat := record.sample.getD position

namespace TableJob

/-- Writes the cell of a record in a column. -/
def writeCell (job : TableJob) (position : Nat) (record : Record) (column : TableColumn)
    (s : TableState) : WriteOutcome :=
  let place : Coord := ⟨job.firstRow + position, column.renderCol⟩
  match column.sample? (record.sampleIndex position) with
  | none => ⟨s, some (column.withoutSamples s.sheet.name)⟩
  | some sample =>
    if record.isSubtotal then
      ⟨{ s with sheet := (writeSubtotal s.sheet place column record).setStyle place 0 }, none⟩
    else
      match writeContent job.functions s.sheet place column sample record with
      | .error e => ⟨s, some e⟩
      | .ok sheet =>
        match s.resolver.resolve column sample.style position record s.styles with
        | (.error e, resolver, styles) => ⟨{ sheet, styles, resolver }, some e⟩
        | (.ok id, resolver, styles) =>
          ⟨{ sheet := sheet.setStyle place id, styles, resolver }, none⟩

/-- Writes the cells of a record in some columns, up to the first failure. -/
def writeCells (job : TableJob) (position : Nat) (record : Record) :
    List TableColumn → TableState → WriteOutcome
  | [], s => ⟨s, none⟩
  | column :: rest, s =>
    match job.writeCell position record column s with
    | ⟨s, none⟩ => writeCells job position record rest s
    | failed => failed

/-- The height that the sample of the first column gives the row of a record. -/
def rowHeight? (job : TableJob) (position : Nat) (record : Record) : Option Float := do
  let column ← job.plan.columns.head?
  let sample ← column.sample? (record.sampleIndex position)
  sample.height

/-- Writes the row of a record. -/
def writeRow (job : TableJob) (position : Nat) (record : Record) (s : TableState) : WriteOutcome :=
  let sheet := match job.rowHeight? position record with
    | some height => s.sheet.setRowHeight (job.firstRow + position) height
    | none => s.sheet
  job.writeCells position record job.plan.columns { s with sheet }

/-- Writes the rows of records from a position on, up to the first failure. -/
def writeRecords (job : TableJob) : Nat → List Record → TableState → WriteOutcome
  | _, [], s => ⟨s, none⟩
  | position, record :: rest, s =>
    match job.writeRow position record s with
    | ⟨s, none⟩ => writeRecords job (position + 1) rest s
    | failed => failed

/-- The region that is filtered: from the header to the last record, over the columns from the first
to the last of the plan. -/
def filterRegion? (job : TableJob) (count : Nat) : Option Region := do
  let first ← job.plan.columns.head?
  let last ← job.plan.columns.getLast?
  some {
    startRow := job.firstRow - 1
    startCol := first.renderCol
    endRow := job.firstRow - 1 + count
    endCol := last.renderCol }

/-- Filters the region of the table, if it has any rows. -/
def applyFilter (job : TableJob) (count : Nat) (w : Worksheet) : Worksheet :=
  match count, job.filterRegion? count with
  | 0, _ => w
  | _, some region => { w with filter := some region }
  | _, none => w

/-- Writes all records and filters the table. The rows must be reserved already. -/
def writeRows (job : TableJob) (records : List Record) (s : TableState) : WriteOutcome :=
  match job.plan.sampleFault? s.sheet.name with
  | some fault => ⟨s, some fault⟩
  | none =>
    match job.writeRecords 0 records s with
    | ⟨s, none⟩ => ⟨{ s with sheet := job.applyFilter records.length s.sheet }, none⟩
    | failed => failed

end TableJob

end SheetPress
