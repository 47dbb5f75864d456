import SheetPress.Sheet.Recalculation
import SheetPress.Template.Options
import SheetPress.Template.Rows

/-!
# Reports

A template is a workbook. `Template.render` fills in its sheets one by one with the data of each:
texts with actions are rendered, the table is planned, its scaffolding removed, and the records are
grouped and written. At the end all formulas are recalculated.
-/

namespace SheetPress

/-- How templates are filled in. -/
structure Renderer where
  listField : String
  labels : DirectiveLabels
  functions : FunctionTable := .standard

/-- The renderer with the given options. -/
def ReportOptions.renderer (o : ReportOptions) : Renderer where
  listField := o.listField
  labels := o.locale.labels

namespace Renderer

/-- Whether a row names the fields of records; its texts are rendered for each record later. -/
def namesFields (r : Renderer) (cells : List String) : Bool :=
  cells.head?.any fun first => trimText first == r.labels.dataField

/-- Renders the texts of a row from a column on into the cells of a sheet. -/
def renderCells (r : Renderer) (data : Json) (row : Nat) :
    Nat → List String → Worksheet → Except TemplateError Worksheet
  | _, [], w => .ok w
  | col, text :: rest, w =>
    if holdsAction text.toList then do
      let rendered ← renderText r.functions data text
      renderCells r data row (col + 1) rest (w.setValue ⟨row, col⟩ (.text rendered))
    else renderCells r data row (col + 1) rest w

/-- Renders the texts of rows from a row on into the cells of a sheet. -/
def renderTexts (r : Renderer) (data : Json) :
    Nat → List (List String) → Worksheet → Except TemplateError Worksheet
  | _, [], w => .ok w
  | row, cells :: rest, w =>
    if r.namesFields cells then renderTexts r data (row + 1) rest w
    else do
      let w ← renderCells r data row 0 cells w
      renderTexts r data (row + 1) rest w

/-- Writes the table of a plan whose scaffolding is gone. -/
def writeTable (job : TableJob) (records : List Record) (styles : StyleRegistry) (w : Worksheet) :
    Except TemplateError (Worksheet × StyleRegistry) :=
  if records.isEmpty then .ok (reserveRows job.firstRow 0 w, styles)
  else
    match job.plan.sampleFault? w.name with
    | some fault => .error fault
    | none =>
      match job.writeRows records { sheet := reserveRows job.firstRow records.length w, styles } with
      | ⟨s, none⟩ => .ok (s.sheet, s.styles)
      | ⟨_, some e⟩ => .error e

/-- Fills in the table of a sheet that has one. -/
def renderTable (r : Renderer) (data : Json) (plan : TablePlan) (styles : StyleRegistry)
    (w : Worksheet) : Except TemplateError (Worksheet × StyleRegistry) :=
  match plan.firstRow with
  | none => .error (.layout w.name .noHeader)
  | some firstRow => do
    let w := plan.strip w
    let given ← recordsOf data r.listField
    let records := applySubtotals (plan.subtotals r.labels) (firstRow + 1) given
    if tableFits firstRow records.length then
      writeTable { plan, firstRow, functions := r.functions } records styles w
    else .error (.tableTooLong w.name records.length (firstRow + 1))

/-- Fills in a sheet. -/
def renderSheet (r : Renderer) (data : Json) (styles : StyleRegistry) (w : Worksheet) :
    Except TemplateError (Worksheet × StyleRegistry) := do
  let rows := w.textRows
  let w ← r.renderTexts data 0 rows w
  let (w, plan) ← compileTable r.labels w (fillAllMerged rows w.merged)
  if plan.columns.isEmpty then .ok (w, styles) else r.renderTable data plan styles w

/-- Fills in sheets, the first of them at a position of the workbook. -/
def renderSheets (r : Renderer) (data : ReportData) :
    Nat → StyleRegistry → List Worksheet → Except TemplateError (List Worksheet × StyleRegistry)
  | _, styles, [] => .ok ([], styles)
  | position, styles, w :: rest => do
    let (done, styles) ←
      (r.renderSheet ((data.sheet? position).getD noData) styles w).mapError (·.onSheet w.name)
    let (others, styles) ← renderSheets r data (position + 1) styles rest
    .ok (done :: others, styles)

/-- Fills in a template and recalculates it. -/
def render (r : Renderer) (data : ReportData) (template : Workbook) :
    Except TemplateError Workbook := do
  let (sheets, styles) ← r.renderSheets data 0 template.styles template.sheets
  .ok ({ sheets, styles } : Workbook).recalculate

end Renderer

end SheetPress
