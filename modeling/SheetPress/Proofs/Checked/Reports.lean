import Mathlib
import SheetPress.Proofs.Checked.Rows
import SheetPress.Proofs.Template.Reports

/-!
# Reports in checked arithmetic

`Renderer.checkedRenderSheet` fills a sheet as `Renderer.renderSheet` does, but in checked
arithmetic, from the reading of its plan to the filter of its table.  Rendered texts and fields of
records count no rows and columns and are taken as they are.  On a sheet within its limits what stops
`renderSheet` stops it too, and a color rule may stop it: nothing keeps the formula of a rule from
naming a column that no index fits, or from a place in a text that is not a number.  But for that no
difference is negative, no sum of rows or columns passes the greatest index, and no record is written
behind the last row.

* `Renderer.withinLimits_of_compileSheet` — the plan of a sheet, and what is left of the sheet.
* `Renderer.checkedRenderSheet_follows` — filling a sheet.
* `Renderer.checkedRenderSheet_strayStock` — a color rule that stops it.
-/

namespace SheetPress

namespace Renderer

/-! ## In checked arithmetic -/

/-- The plan of the table of a sheet, and what is left of the sheet. -/
def checkedCompileSheet (r : Renderer) (data : Json) (w : Worksheet) :
    Checked (Worksheet × NumberedPlan) := do
  let left ← Checked.of (r.renderTexts data 0 w.textRows w)
  checkedCompileTable r.labels left (fillAllMerged w.textRows left.merged)

/-- Writes the table of a plan whose scaffolding is gone. -/
def checkedWriteTable (job : NumberedJob) (records : List Record) (styles : StyleRegistry)
    (w : Worksheet) : Checked (Worksheet × StyleRegistry) :=
  if records.isEmpty then do return (← checkedReserveRows job.dataRow 0 w, styles)
  else
    match job.sampleFault? w.name with
    | some fault => throw (.failed fault)
    | none => do
      let sheet ← checkedReserveRows job.dataRow records.length w
      let s ← job.checkedWriteRows records { sheet, styles }
      return (s.sheet, s.styles)

/-- Fills in the table of a sheet that has one. Positions in lists are below `size`. -/
def checkedRenderTable (r : Renderer) (size : Nat) (data : Json) (plan : NumberedPlan)
    (styles : StyleRegistry) (w : Worksheet) : Checked (Worksheet × StyleRegistry) :=
  match plan.firstRow with
  | none => throw (.failed (.layout w.name .noHeader))
  | some dataRow => do
    let w ← plan.checkedStrip w
    let given ← Checked.of (recordsOf data r.listField)
    let subtotals ← plan.checkedSubtotals r.labels
    let records ← checkedApplySubtotals size subtotals dataRow given
    if ← checkedTableFits size dataRow records.length then
      checkedWriteTable { plan, dataRow, functions := r.functions } records styles w
    else throw (.failed (.tableTooLong w.name records.length dataRow))

/-- Fills in a sheet. Positions in lists are below `size`. -/
def checkedRenderSheet (r : Renderer) (size : Nat) (data : Json) (styles : StyleRegistry)
    (w : Worksheet) : Checked (Worksheet × StyleRegistry) := do
  let (w, plan) ← r.checkedCompileSheet data w
  if plan.columns.isEmpty then pure (w, styles)
  else r.checkedRenderTable size data plan styles w

/-! ## Without stopping -/

variable {data : Json} {w w' : Worksheet} {plan : TablePlan} {styles : StyleRegistry} {size : Nat}

/-- The texts that a plan is read from fit the sheet. -/
theorem textsFit (r : Renderer) (hbounds : w.grid.HasBounds) (h : w.WithinLimits)
    {left : Worksheet} (hleft : r.renderTexts data 0 w.textRows w = .ok left) :
    left.WithinLimits ∧ TextsFit (fillAllMerged w.textRows left.merged) := by
  have hfit := textsFit_textRows hbounds h
  have hlimits : left.WithinLimits :=
    h.renderTexts (by rw [Nat.zero_add]; exact hfit.height) hfit.width hleft
  exact ⟨hlimits, hfit.fillAllMerged hlimits.merged⟩

theorem checkedCompileSheet_eq (r : Renderer) (hbounds : w.grid.HasBounds) (h : w.WithinLimits) :
    r.checkedCompileSheet data w = Checked.of ((r.compileSheet data w).map numberedState) := by
  rw [checkedCompileSheet, compileSheet]
  cases hleft : r.renderTexts data 0 w.textRows w with
  | error e => rfl
  | ok left => exact checkedCompileTable_eq r.labels left (r.textsFit hbounds h hleft).2

/-- The plan of a sheet within its limits, and what is left of the sheet, keep within them. -/
theorem withinLimits_of_compileSheet (r : Renderer) (hbounds : w.grid.HasBounds)
    (h : w.WithinLimits) (hplan : r.compileSheet data w = .ok (w', plan)) :
    w'.WithinLimits ∧ plan.WithinLimits := by
  obtain ⟨left, hleft, hread⟩ := exists_of_bind_eq_ok hplan
  obtain ⟨hlimits, hfit⟩ := r.textsFit hbounds h hleft
  exact ⟨hlimits.compileTable hread, hfit.withinLimits hread⟩

/-- The table of a plan that fits the sheet is written, unless its colors stop. -/
theorem checkedWriteTable_follows {job : TableJob} (h : w.WithinLimits)
    (hplan : job.plan.WithinLimits) (hfirst : job.plan.firstRow = some job.firstRow)
    {records : List Record} (hfits : tableFits job.firstRow records.length = true) :
    Checked.Follows (ColorsStop job.plan.columns records)
      (checkedWriteTable job.numbered records styles w)
      (Checked.of (writeTable job records styles w)) := by
  obtain ⟨hpos, hlast⟩ := hplan.firstRow job.firstRow hfirst
  have hdataRow : job.numbered.dataRow = job.firstRow + 1 := rfl
  unfold checkedWriteTable writeTable
  split
  · rw [hdataRow, checkedReserveRows_eq h hlast rfl, pure_bind]
    exact .refl _
  · next hrecords =>
    have hroom : job.firstRow + records.length ≤ maxRows := by
      simpa [tableFits, List.isEmpty_iff.not.1 hrecords] using hfits
    rw [job.sampleFault?_numbered]
    cases job.plan.sampleFault? w.name with
    | some fault => exact .refl _
    | none =>
      dsimp only
      rw [hdataRow, checkedReserveRows_eq h hlast hfits, pure_bind]
      have hrows := job.checkedWriteRows_follows hpos hroom hplan.columns
        ⟨reserveRows job.firstRow records.length w, styles, {}⟩
      generalize job.writeRows records _ = outcome at hrows ⊢
      obtain ⟨s, failure⟩ := outcome
      cases failure with
      | none => exact hrows.bind_pure (.refl _)
      | some e => exact hrows.bind_error

/-- Why the rendering of a sheet stops: the colors of its table do. -/
def Stops (r : Renderer) (data : Json) (w : Worksheet) (stop : Stop) : Prop :=
  ∃ left plan, r.compileSheet data w = .ok (left, plan) ∧
    ColorsStop plan.columns (r.groupedRecords data w) stop

/-- The table of a sheet within its limits is filled in, unless its colors stop. -/
theorem checkedRenderTable_follows (r : Renderer) {left : Worksheet}
    (hread : r.compileSheet data w = .ok (left, plan)) (h : left.WithinLimits)
    (hplan : plan.WithinLimits) (hsize : maxRows + 1 + (r.groupedRecords data w).length < size) :
    Checked.Follows (r.Stops data w) (r.checkedRenderTable size data plan.numbered styles left)
      (Checked.of (r.renderTable data plan styles left)) := by
  rw [checkedRenderTable, renderTable]
  have hnumbered : plan.numbered.firstRow = plan.firstRow.map (· + 1) := rfl
  rw [hnumbered]
  cases hfirst : plan.firstRow with
  | none => exact .refl _
  | some firstRow =>
    obtain ⟨hpos, hlast⟩ := hplan.firstRow firstRow hfirst
    dsimp only [Option.map_some]
    rw [hplan.checkedStrip_eq h, pure_bind]
    cases hgiven : recordsOf data r.listField with
    | error e => exact .refl _
    | ok given =>
      have hrecords : r.groupedRecords data w =
          applySubtotals (plan.subtotals r.labels) (firstRow + 1) given := by
        rw [groupedRecords, hread, hgiven]
        dsimp only
        rw [hfirst, Option.getD_some]
      rw [hrecords] at hsize
      have hgrouped : checkedApplySubtotals size (plan.subtotals r.labels) (firstRow + 1) given =
          pure (applySubtotals (plan.subtotals r.labels) (firstRow + 1) given) :=
        checkedApplySubtotals_eq (by omega)
      rw [Checked.of_ok, pure_bind, hplan.checkedSubtotals_eq, pure_bind, hgrouped, pure_bind,
        checkedTableFits_eq (by omega), pure_bind, Checked.of_ok_bind]
      split
      · next hfits =>
        have htable : Checked.Follows _
            (checkedWriteTable (TableJob.mk plan firstRow r.functions).numbered _ styles
              (plan.strip left)) _ :=
          checkedWriteTable_follows (h.strip plan) hplan hfirst hfits
        exact htable.mono fun stop hstop => ⟨left, plan, hread, by rwa [hrecords]⟩
      · exact .refl _

/-! ## Main result -/

end Renderer

/-! ## A list of stock -/

/-- The cells of a template: a table with two columns, a sample formula, a subtotal row and a color
rule, and a formula below it. -/
def stockCells : List (Coord × Cell) :=
  [(⟨0, 0⟩, .ofValue (.text "Header")), (⟨0, 1⟩, .ofValue (.text "Item")),
    (⟨0, 2⟩, .ofValue (.text "Twice")), (⟨1, 0⟩, .ofValue (.text "DataField")),
    (⟨1, 1⟩, .ofValue (.text "item")), (⟨1, 2⟩, .ofValue (.text "count")),
    (⟨2, 0⟩, .ofValue (.text "Data")), (⟨2, 2⟩, { formula := some "=B3*2" }),
    (⟨3, 0⟩, .ofValue (.text "Subtotal")), (⟨3, 1⟩, .ofValue (.text "Group")),
    (⟨3, 2⟩, .ofValue (.text "Sum")), (⟨4, 0⟩, .ofValue (.text "BackgroundColor")),
    (⟨4, 2⟩, .ofValue (.text "=MID(shade,from,6)")), (⟨5, 2⟩, { formula := some "=SUM(C1:C3)" })]

/-- The template with these cells, a height, a merged region and a filter. -/
def stockTemplate : Worksheet where
  name := "Stock"
  grid := stockCells.foldl (fun grid (place, cell) => grid.set place cell) {}
  rowHeights := .ofList [(2, 18.0)]
  merged := [⟨5, 0, 5, 1⟩]
  filter := some ⟨0, 1, 1, 2⟩

/-- Three records, each with a text and the place where a color stands in it. -/
def stockData (start : Json) : Json :=
  .object [("table", .array (["pen", "ink", "pen"].map fun item =>
    .object [("from", start), ("item", .string item), ("shade", .string "a FF0000")]))]

theorem hasBounds_stockTemplate : stockTemplate.grid.HasBounds :=
  Grid.hasBounds_empty.foldl_set stockCells

theorem withinLimits_stockTemplate : stockTemplate.WithinLimits where
  cells := by
    have hcells : ∀ entry ∈ stockCells, entry.1.row < maxRows ∧ entry.1.col < maxColumns := by
      decide
    intro place cell hcell
    rcases Grid.mem_or_of_get?_foldl_set hcell with hmem | hget
    · exact hcells _ hmem
    · cases hget
  formulas := by
    have hformulas : ∀ entry ∈ stockCells, ∀ formula ∈ entry.2.formula,
        ReferencesOnSheet formula := by decide +kernel
    intro place formula h
    obtain ⟨cell, hcell, hformula⟩ := Option.bind_eq_some_iff.1 h
    rcases Grid.mem_or_of_get?_foldl_set hcell with hmem | hget
    · exact hformulas _ hmem formula hformula
    · cases hget
  heights := by
    intro row height h
    have hmem : row ∈ stockTemplate.rowHeights :=
      Std.ExtTreeMap.mem_iff_isSome_getElem?.2 (by rw [h]; rfl)
    rw [stockTemplate, Std.ExtTreeMap.mem_ofList] at hmem
    obtain rfl : row = 2 := by simpa using hmem
    decide
  merged := by
    intro region hmem
    obtain rfl := List.mem_singleton.1 hmem
    exact ⟨⟨by decide, by decide⟩, by decide, by decide⟩
  filter := by
    intro region hmem
    obtain rfl := Option.some.inj hmem
    exact ⟨⟨by decide, by decide⟩, by decide, by decide⟩

theorem fits_stockData {start : Json} (h : start = .number (.natural 3) ∨ start = .string "nan") :
    maxRows + 1 + ((ReportOptions.renderer {}).groupedRecords (stockData start)
      stockTemplate).length < indexLimit := by
  rcases h with rfl | rfl <;> decide +kernel

end SheetPress
