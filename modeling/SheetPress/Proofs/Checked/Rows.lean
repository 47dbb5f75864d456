import Mathlib
import SheetPress.Proofs.Checked.Colors
import SheetPress.Proofs.Checked.Subtotals
import SheetPress.Template.Rows

/-!
# Rows of a table in checked arithmetic

The row of a record is the number of the first one and a position, less one; its cells stand one
column to the left of where the template has them, and the region that is filtered starts two rows
above the number of the first record.  The table fits the sheet, so that all of this is on it.  What
is left to stop the writing are the color rules of its columns.

* `checkedReserveRows_eq` — room for the records.
* `TableJob.checkedWriteRecords_follows` — the rows of records, each of which is a row of the sheet.
* `TableJob.checkedWriteRows_follows` — all of them, and the filter.
-/

namespace SheetPress

/-! ## Room for records -/

/-- Makes room for records from row `dataRow` on, which is counted from 1. -/
def checkedReserveRows (dataRow count : Nat) (w : Worksheet) : Checked Worksheet := do
  let first ← minus dataRow 1
  match count with
  | 0 => return (w.clearRow first).clearRow (← plus first 1)
  | 1 => return w.clearRow (← plus first 1)
  | count => do
    let extra := asIndex (← minus count readyRows)
    w.checkedInsertRows (← plus first 1) extra

/-- Room is made without stopping as long as the records fit the sheet. -/
theorem checkedReserveRows_eq {w : Worksheet} (h : w.WithinLimits) {firstRow count : Nat}
    (hfirst : firstRow ≤ maxRows) (hfits : tableFits firstRow count = true) :
    checkedReserveRows (firstRow + 1) count w = pure (reserveRows firstRow count w) := by
  have hnext : plus firstRow 1 = pure (firstRow + 1) :=
    plus_eq_of_le_maxRows (by omega) (by decide)
  rw [checkedReserveRows, minus_add_right, pure_bind]
  rcases count with _ | _ | count
  · dsimp only
    rw [hnext]
    rfl
  · dsimp only
    rw [hnext]
    rfl
  · have hlimit : maxRows < indexLimit := by decide
    have hroom : firstRow + (count + 2) ≤ maxRows := by simpa [tableFits] using hfits
    change (do
      let extra ← minus (count + readyRows) readyRows
      w.checkedInsertRows (← plus firstRow 1) (asIndex extra)) = _
    rw [minus_add_right, pure_bind, hnext, pure_bind, asIndex_eq (by omega),
      h.checkedInsertRows_eq (by omega) (by omega)]
    rfl

/-! ## Cells -/

/-- What writing leaves behind, unless something went wrong. -/
def WriteOutcome.checked : WriteOutcome → Checked TableState
  | ⟨s, none⟩ => pure s
  | ⟨_, some e⟩ => throw (.failed e)

/-- How a table is written whose plan is numbered. -/
structure NumberedJob where
  plan : NumberedPlan
  /-- The number of the row of the first record. -/
  dataRow : Nat
  functions : FunctionTable

def TableJob.numbered (job : TableJob) : NumberedJob :=
  ⟨job.plan.numbered, job.firstRow + 1, job.functions⟩

/-- Writes the content of a cell. -/
def checkedWriteContent (functions : FunctionTable) (w : Worksheet) (place : Coord)
    (column : TableColumn) (sample : Sample) (record : Record) : Checked Worksheet :=
  match sample.formula with
  | some formula => do
    let moved ← checkedRetargetFormula formula (← plus place.row 1) renderShift
    return w.setFormula place moved
  | none => Checked.of (writeContent functions w place column sample record)

namespace NumberedJob

/-- Writes the cell of a record in a column. -/
def checkedWriteCell (job : NumberedJob) (row position : Nat) (record : Record)
    (column : NumberedColumn) (s : TableState) : Checked TableState := do
  let place : Coord := ⟨row, ← minus column.renderNumber 1⟩
  match column.column.sample? (record.sampleIndex position) with
  | none => throw (.failed (column.column.withoutSamples s.sheet.name))
  | some sample =>
    if record.isSubtotal then
      return { s with sheet := (writeSubtotal s.sheet place column.column record).setStyle place 0 }
    else do
      let sheet ← checkedWriteContent job.functions s.sheet place column.column sample record
      match ← s.resolver.checkedResolve column.column sample.style position record s.styles with
      | (.error e, _, _) => throw (.failed e)
      | (.ok id, resolver, styles) =>
        return { sheet := sheet.setStyle place id, styles, resolver }

/-- The height that the sample of the first column gives the row of a record. -/
def rowHeight? (job : NumberedJob) (position : Nat) (record : Record) : Option Float := do
  let column ← job.plan.columns.head?
  let sample ← column.column.sample? (record.sampleIndex position)
  sample.height

/-- Writes the row of a record, which must be a row of the sheet. -/
def checkedWriteRow (job : NumberedJob) (position : Nat) (record : Record) (s : TableState) :
    Checked TableState := do
  let row ← minus (← plus job.dataRow (asIndex position)) 1
  if row < maxRows then
    let sheet := match job.rowHeight? position record with
      | some height => s.sheet.setRowHeight row height
      | none => s.sheet
    job.plan.columns.foldlM (fun s column => job.checkedWriteCell row position record column s)
      { s with sheet }
  else throw (.pastEnd row)

/-- Writes the rows of records from a position on. -/
def checkedWriteRecords (job : NumberedJob) : Nat → List Record → TableState → Checked TableState
  | _, [], s => pure s
  | position, record :: rest, s => do
    let s ← job.checkedWriteRow position record s
    checkedWriteRecords job (position + 1) rest s

/-- Filters the region of the table, if it has any rows. -/
def checkedApplyFilter (job : NumberedJob) (count : Nat) (w : Worksheet) : Checked Worksheet :=
  match count, job.plan.columns.head?, job.plan.columns.getLast? with
  | 0, _, _ => pure w
  | _, some first, some last => do
    let startRow ← minus job.dataRow 2
    let startCol ← minus first.renderNumber 1
    let endRow ← plus startRow (asIndex count)
    let endCol ← minus last.renderNumber 1
    return { w with filter := some { startRow, startCol, endRow, endCol } }
  | _, _, _ => pure w

/-- The first column without samples. -/
def sampleFault? (job : NumberedJob) (sheet : String) : Option TemplateError :=
  (job.plan.columns.find? (·.column.samples.isEmpty)).map (·.column.withoutSamples sheet)

/-- Writes all records and filters the table. -/
def checkedWriteRows (job : NumberedJob) (records : List Record) (s : TableState) :
    Checked TableState :=
  match job.sampleFault? s.sheet.name with
  | some fault => throw (.failed fault)
  | none => do
    let s ← job.checkedWriteRecords 0 records s
    return { s with sheet := ← job.checkedApplyFilter records.length s.sheet }

end NumberedJob

section Writing

variable {job : TableJob} {position row : Nat} {record : Record} {s : TableState}

theorem checkedWriteContent_eq (functions : FunctionTable) (w : Worksheet) {place : Coord}
    (hrow : place.row < maxRows) (column : TableColumn) (sample : Sample) (record : Record) :
    checkedWriteContent functions w place column sample record =
      Checked.of (writeContent functions w place column sample record) := by
  unfold checkedWriteContent
  split
  · next formula hformula =>
    rw [plus_eq_of_le_maxRows (by omega) (by decide), pure_bind, checkedRetargetFormula_eq,
      writeContent]
    simp only [hformula]
    cases retargetFormula formula (place.row + 1) renderShift <;> rfl
  · rfl

/-- The cell of a record is written, unless a color rule of its column stops. -/
theorem TableJob.checkedWriteCell_follows (hrow : job.firstRow + position < maxRows)
    {column : TableColumn} (hcolumn : 1 ≤ column.templateCol) (s : TableState) :
    Checked.Follows (ColorsStop [column] [record])
      (job.numbered.checkedWriteCell (job.firstRow + position) position record column.numbered s)
      (job.writeCell position record column s).checked := by
  rw [NumberedJob.checkedWriteCell, writeCell]
  dsimp only [TableColumn.numbered]
  rw [minus_eq hcolumn, pure_bind]
  cases column.sample? (record.sampleIndex position) with
  | none => exact .refl _
  | some sample =>
    dsimp only
    split
    · exact .refl _
    · next hsubtotal =>
      rw [checkedWriteContent_eq _ _ hrow]
      dsimp only [TableJob.numbered, TableColumn.renderCol]
      cases writeContent job.functions s.sheet ⟨job.firstRow + position, column.templateCol - 1⟩
          column sample record with
      | error e => exact .refl _
      | ok sheet =>
        have hresolve := (s.resolver.checkedResolve_follows position record column sample.style
          s.styles).mono fun stop ⟨rule, hrule, hstop⟩ =>
            (⟨column, List.mem_singleton_self _, rule, hrule, record, List.mem_singleton_self _,
              Bool.eq_false_of_not_eq_true hsubtotal, hstop⟩ : ColorsStop [column] [record] stop)
        refine hresolve.bind_pure ?_
        rcases s.resolver.resolve column sample.style position record s.styles with
          ⟨result, resolver, styles⟩
        cases result <;> exact .refl _

/-- The cells of a record are written, unless a color rule of their columns stops. -/
theorem TableJob.checkedWriteCells_follows (hrow : job.firstRow + position < maxRows)
    {columns : List TableColumn} (hcolumns : ∀ c ∈ columns, 1 ≤ c.templateCol) (s : TableState) :
    Checked.Follows (ColorsStop columns [record])
      ((columns.map TableColumn.numbered).foldlM (fun s column => job.numbered.checkedWriteCell
        (job.firstRow + position) position record column s) s)
      (job.writeCells position record columns s).checked := by
  induction columns generalizing s with
  | nil => exact .refl _
  | cons column columns ih =>
    obtain ⟨hcolumn, hcolumns⟩ := List.forall_mem_cons.1 hcolumns
    have hcell := (job.checkedWriteCell_follows hrow hcolumn s).mono fun stop h =>
      h.mono (List.cons_subset_cons column (List.nil_subset columns)) (List.Subset.refl [record])
    rw [List.map_cons, List.foldlM_cons, writeCells]
    generalize job.writeCell position record column s = outcome at hcell ⊢
    obtain ⟨s', failure⟩ := outcome
    cases failure with
    | none =>
      refine hcell.bind_pure ((ih hcolumns s').mono fun stop h => ?_)
      exact h.mono (List.subset_cons_self column columns) (List.Subset.refl [record])
    | some e => exact hcell.bind_error

theorem TableJob.rowHeight?_numbered (position : Nat) (record : Record) :
    job.numbered.rowHeight? position record = job.rowHeight? position record := by
  rw [NumberedJob.rowHeight?, rowHeight?, numbered, TablePlan.numbered]
  cases job.plan.columns <;> rfl

/-- The row of a record that fits the sheet is written, unless a color rule stops. -/
theorem TableJob.checkedWriteRow_follows (hrow : job.firstRow + position < maxRows)
    (hcolumns : ∀ c ∈ job.plan.columns, 1 ≤ c.templateCol) (s : TableState) :
    Checked.Follows (ColorsStop job.plan.columns [record])
      (job.numbered.checkedWriteRow position record s) (job.writeRow position record s).checked := by
  have hlimit : maxRows < indexLimit := by decide
  -- nothing of the position is cut off, and the row is the one that the number stands for
  have hnumber : plus (job.firstRow + 1) (asIndex position) =
      pure (job.firstRow + position + 1) := by
    rw [asIndex_eq (by omega), plus_eq_of_le_maxRows (by omega) (by omega), Nat.add_right_comm]
  have hdataRow : job.numbered.dataRow = job.firstRow + 1 := rfl
  rw [NumberedJob.checkedWriteRow, hdataRow, hnumber, pure_bind, minus_add_right, pure_bind,
    if_pos hrow, rowHeight?_numbered]
  exact checkedWriteCells_follows hrow hcolumns _

/-- The rows of records are written, each on a row of the sheet, unless a color rule stops. -/
theorem TableJob.checkedWriteRecords_follows {records : List Record}
    (hfits : job.firstRow + position + records.length ≤ maxRows)
    (hcolumns : ∀ c ∈ job.plan.columns, 1 ≤ c.templateCol) (s : TableState) :
    Checked.Follows (ColorsStop job.plan.columns records)
      (job.numbered.checkedWriteRecords position records s)
      (job.writeRecords position records s).checked := by
  induction records generalizing position s with
  | nil => exact .refl _
  | cons record records ih =>
    rw [List.length_cons] at hfits
    have hrow : Checked.Follows (ColorsStop job.plan.columns (record :: records))
        (job.numbered.checkedWriteRow position record s) (job.writeRow position record s).checked :=
      (checkedWriteRow_follows (by omega) hcolumns s).mono fun stop h =>
        h.mono (List.Subset.refl _) (List.cons_subset_cons record (List.nil_subset records))
    rw [NumberedJob.checkedWriteRecords, writeRecords]
    generalize job.writeRow position record s = outcome at hrow ⊢
    obtain ⟨s', failure⟩ := outcome
    cases failure with
    | none =>
      refine hrow.bind_pure ((ih (by omega) s').mono fun stop h => ?_)
      exact h.mono (List.Subset.refl _) (List.subset_cons_self record records)
    | some e => exact hrow.bind_error

/-- The table is filtered without stopping: its header is above the first record. -/
theorem TableJob.checkedApplyFilter_eq (hfirst : 0 < job.firstRow) {count : Nat}
    (hfits : job.firstRow + count ≤ maxRows)
    (hcolumns : ∀ c ∈ job.plan.columns, 1 ≤ c.templateCol) (w : Worksheet) :
    job.numbered.checkedApplyFilter count w = pure (job.applyFilter count w) := by
  have hlimit : maxRows < indexLimit := by decide
  cases count with
  | zero => rfl
  | succ count =>
    unfold NumberedJob.checkedApplyFilter applyFilter filterRegion?
    dsimp only [TableJob.numbered, TablePlan.numbered]
    rw [List.head?_map, List.getLast?_map]
    cases hhead : job.plan.columns.head? with
    | none => rfl
    | some first =>
      cases hlast : job.plan.columns.getLast? with
      | none => rfl
      | some last =>
        have hstart := hcolumns first (List.mem_of_head? hhead)
        have hend := hcolumns last (List.mem_of_getLast? hlast)
        simp only [Option.map_some, TableColumn.numbered]
        rw [minus_eq (by omega), pure_bind, minus_eq hstart, pure_bind, asIndex_eq (by omega),
          plus_eq_of_le_maxRows (by omega) (by omega), pure_bind, minus_eq hend, pure_bind]
        rfl

theorem TableJob.sampleFault?_numbered (job : TableJob) (sheet : String) :
    job.numbered.sampleFault? sheet = job.plan.sampleFault? sheet := by
  rw [NumberedJob.sampleFault?, TablePlan.sampleFault?, numbered, TablePlan.numbered]
  dsimp only
  rw [List.find?_map, Option.map_map]
  rfl

/-- All records are written and the table is filtered, unless a color rule stops. -/
theorem TableJob.checkedWriteRows_follows (hfirst : 0 < job.firstRow) {records : List Record}
    (hfits : job.firstRow + records.length ≤ maxRows)
    (hcolumns : ∀ c ∈ job.plan.columns, 1 ≤ c.templateCol) (s : TableState) :
    Checked.Follows (ColorsStop job.plan.columns records)
      (job.numbered.checkedWriteRows records s) (job.writeRows records s).checked := by
  have hrecords : Checked.Follows (ColorsStop job.plan.columns records)
      (job.numbered.checkedWriteRecords 0 records s) (job.writeRecords 0 records s).checked :=
    checkedWriteRecords_follows hfits hcolumns s
  rw [NumberedJob.checkedWriteRows, sampleFault?_numbered, writeRows]
  cases job.plan.sampleFault? s.sheet.name with
  | some fault => exact .refl _
  | none =>
    dsimp only
    generalize job.writeRecords 0 records s = outcome at hrecords ⊢
    obtain ⟨s', failure⟩ := outcome
    cases failure with
    | none =>
      refine hrecords.bind_pure (.inl ?_)
      rw [checkedApplyFilter_eq hfirst hfits hcolumns s'.sheet, pure_bind]
      rfl
    | some e => exact hrecords.bind_error

end Writing

end SheetPress
