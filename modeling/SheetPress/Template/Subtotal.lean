import SheetPress.Template.Record
import SheetPress.Template.Table

/-!
# Subtotals

A subtotal row of a template names a column to group by and an aggregate over another column. The
records are put in groups; behind each group stands a record with the aggregate of its rows, and at
the end one with the aggregate of them all. Several subtotal rows work one after another, each on
what the one before it gave.
-/

namespace SheetPress

/-- What a subtotal row asks for. -/
structure Subtotal where
  groupField : String
  sumField : String
  /-- The letters of the aggregated column in the finished sheet. -/
  sumColumn : String
  spec : SubtotalSpec
  deriving DecidableEq, Repr

/-! ## Reading subtotal rows -/

namespace DirectiveRow

/-- The text in a column; there is none past the end of the row. -/
def text (d : DirectiveRow) (col : Nat) : String := d.cells[col]?.getD ""

/-- The columns of the row without its first one. -/
def places (d : DirectiveRow) : List Nat := List.range' 1 (d.cells.length - 1)

/-- What a subtotal row asks for, where `fields` names the fields of the columns: the first cell with
the group marker and the first cell that selects an aggregate. -/
def subtotal? (labels : DirectiveLabels) (fields d : DirectiveRow) : Option Subtotal := do
  let group ← d.places.find? fun col => trimText (d.text col) == labels.groupMarker
  let (sum, spec) ← d.places.findSome? fun col =>
    (labels.subtotalSpec? (d.text col)).map fun spec => (col, spec)
  some {
    groupField := trimText (fields.text group)
    sumField := trimText (fields.text sum)
    sumColumn := columnName (sum - 1)
    spec }

end DirectiveRow

/-- What the subtotal rows of a plan ask for. Rows that lack a marker are passed over, and so are all
of them where no row names fields. -/
def TablePlan.subtotals (labels : DirectiveLabels) (plan : TablePlan) : List Subtotal :=
  match plan.directivesOf .dataField with
  | [] => []
  | fields :: _ => (plan.directivesOf .subtotal).filterMap (DirectiveRow.subtotal? labels fields)

/-! ## Grouping -/

/-- The text by which a record is grouped. -/
def Record.key (field : String) (r : Record) : String := ((r.field? field).map (·.display)).getD ""

/-- The groups of some records: the keys in the order they are first seen, each with its records. -/
def groupsOf (field : String) (records : List Record) : List (String × List Record) :=
  (records.map (Record.key field)).eraseDups.map fun key =>
    (key, records.filter (Record.key field · == key))

/-- The records of a group, which follow the samples from the first one on. -/
def numberSamples (records : List Record) : List Record :=
  records.mapIdx fun i r => { r with sample := some i }

namespace Subtotal

/-- The formula over a span of rows, which are counted from 1 as in every formula. -/
def formula (s : Subtotal) (first last : Nat) : String :=
  "=SUBTOTAL(" ++ natText s.spec.code ++ "," ++ s.sumColumn ++ natText first ++ ":"
    ++ s.sumColumn ++ natText last ++ ")"

/-- A record with a label and the aggregate of a span of rows. -/
def summary (s : Subtotal) (label : String) (first last : Nat) : Record :=
  (({ kind := .subtotal } : Record).withField s.groupField (.text label)).withField s.sumField
    (.formula (s.formula first last))

/-- The rows of groups from a row on, each group followed by its summary. -/
def groupRows (s : Subtotal) (row : Nat) : List (String × List Record) → List Record
  | [] => []
  | (key, members) :: rest =>
    numberSamples members
      ++ s.summary (key ++ " " ++ s.spec.groupSuffix) row (row + members.length - 1)
      :: groupRows s (row + members.length + 1) rest

/-- Groups records and adds the summaries; the first record that comes out lands on row `row`,
counted from 1. No records stay no records. -/
def apply (s : Subtotal) (row : Nat) (records : List Record) : List Record :=
  if records.isEmpty then []
  else
    let grouped := s.groupRows row (groupsOf s.groupField records)
    grouped ++ [s.summary s.spec.totalLabel row (row + grouped.length - 1)]

end Subtotal

/-- Applies subtotals one after another, with the records from row `row`, counted from 1, on. -/
def applySubtotals (subtotals : List Subtotal) (row : Nat) (records : List Record) : List Record :=
  subtotals.foldl (fun records s => s.apply row records) records

end SheetPress
