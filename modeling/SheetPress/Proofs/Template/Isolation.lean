import SheetPress.Proofs.Sheet.Passes
import SheetPress.Proofs.Template.Outside
import SheetPress.Proofs.Template.SharedStyles
import SheetPress.Proofs.Template.StylesInUse

/-!
# Sheets that do not meet

Two reports are made from one template, and one sheet gets the same data in both.  The other sheets may
register other styles first, so the cells of this sheet can have other style numbers, but not other
styles.

* `Worksheet.LooksLike` — two sheets that are equal but for style numbers, which mean the same, and the
  writes that keep it.
* `RunsAlike` — two runs that write the same records into such sheets; it is kept from cell to cell and
  from record to record.
* `Renderer.renderSheet_looksLike` — a sheet that is filled in twice looks the same both times.
* `Renderer.render_isolated` — so it does in two reports that agree in its data.
-/

namespace SheetPress

open StyleRegistry (SameStyle)

/-! ## Sheets that look the same -/

/-- Two cells that are equal but for the numbers of their styles, which mean the same. -/
structure Cell.LooksLike (base r r' : StyleRegistry) (cell cell' : Cell) : Prop where
  formula : cell.formula = cell'.formula
  value : cell.value = cell'.value
  style : SameStyle base r r' cell.style cell'.style

/-- A sheet without its cells: its name and its layout. -/
def Worksheet.withoutCells (w : Worksheet) : Worksheet :=
  { w with grid := {} }

/-- Two sheets that are equal but for the numbers of styles. -/
structure Worksheet.LooksLike (base r r' : StyleRegistry) (w w' : Worksheet) : Prop where
  withoutCells : w.withoutCells = w'.withoutCells
  cells : ∀ place, Option.Rel (Cell.LooksLike base r r') (w.cell? place) (w'.cell? place)

namespace Worksheet

variable {base r r' : StyleRegistry} {w w' : Worksheet}

theorem withoutCells_setFormula (w : Worksheet) (place : Coord) (formula : String) :
    (w.setFormula place formula).withoutCells = w.withoutCells := by
  unfold setFormula
  split
  · split <;> rfl
  · rfl

theorem withoutCells_clearCell (w : Worksheet) (place : Coord) :
    (w.clearCell place).withoutCells = w.withoutCells := by
  unfold clearCell
  split <;> rfl

theorem LooksLike.refl (h : w.UsesBelow base.size) (r r' : StyleRegistry) :
    w.LooksLike base r r' w := by
  refine ⟨rfl, fun place => ?_⟩
  cases hcell : w.cell? place with
  | none => exact .none
  | some cell => exact .some ⟨rfl, rfl, .refl_of_lt r r' (h place cell hcell)⟩

/-- A place holds cells that look the same, or none in either sheet. -/
theorem LooksLike.cell?_cases (h : w.LooksLike base r r' w') (place : Coord) :
    w.cell? place = none ∧ w'.cell? place = none ∨
      ∃ cell cell', w.cell? place = some cell ∧ w'.cell? place = some cell' ∧
        cell.LooksLike base r r' cell' := by
  have hcells := h.cells place
  generalize w.cell? place = found, w'.cell? place = found' at hcells ⊢
  cases hcells with
  | none => exact .inl ⟨rfl, rfl⟩
  | some hcell => exact .inr ⟨_, _, rfl, rfl, hcell⟩

theorem LooksLike.mono {last last' : StyleRegistry} (h : w.LooksLike base r r' w')
    (hgrows : r.Grows last) (hgrows' : r'.Grows last') : w.LooksLike base last last' w' := by
  refine ⟨h.withoutCells, fun place => ?_⟩
  obtain ⟨hnone, hnone'⟩ | ⟨cell, cell', hcell, hcell', hlooks⟩ := h.cell?_cases place
  · rw [hnone, hnone']
    exact .none
  · rw [hcell, hcell']
    exact .some ⟨hlooks.formula, hlooks.value, hlooks.style.mono hgrows hgrows'⟩

/-- What a write finds at a place, blank if nothing is stored. -/
theorem LooksLike.getD (h : w.LooksLike base r r' w') (hbase : 0 < base.size) (place : Coord) :
    Cell.LooksLike base r r' ((w.cell? place).getD {}) ((w'.cell? place).getD {}) := by
  obtain ⟨hnone, hnone'⟩ | ⟨cell, cell', hcell, hcell', hlooks⟩ := h.cell?_cases place
  · rw [hnone, hnone']
    exact ⟨rfl, rfl, .refl_of_lt r r' hbase⟩
  · rw [hcell, hcell']
    exact hlooks

/-- Both sheets get a new cell at the same place. -/
theorem LooksLike.write {v v' : Worksheet} (h : w.LooksLike base r r' w') {place : Coord}
    {written written' : Option Cell}
    (hcells : ∀ p, v.cell? p = if p = place then written else w.cell? p)
    (hcells' : ∀ p, v'.cell? p = if p = place then written' else w'.cell? p)
    (hlayout : v.withoutCells = w.withoutCells) (hlayout' : v'.withoutCells = w'.withoutCells)
    (hwritten : Option.Rel (Cell.LooksLike base r r') written written') :
    v.LooksLike base r r' v' := by
  refine ⟨hlayout.trans (h.withoutCells.trans hlayout'.symm), fun p => ?_⟩
  rw [hcells, hcells']
  by_cases hp : p = place
  · rw [if_pos hp, if_pos hp]
    exact hwritten
  · rw [if_neg hp, if_neg hp]
    exact h.cells p

theorem LooksLike.setValue (h : w.LooksLike base r r' w') (hbase : 0 < base.size) (place : Coord)
    (value : CellValue) :
    (w.setValue place value).LooksLike base r r' (w'.setValue place value) := by
  refine h.write (w.cell?_setValue place · value) (w'.cell?_setValue place · value) rfl rfl ?_
  exact .some ⟨rfl, rfl, (h.getD hbase place).style⟩

theorem LooksLike.setStyle (h : w.LooksLike base r r' w') (hbase : 0 < base.size) (place : Coord)
    {a b : Nat} (hstyle : SameStyle base r r' a b) :
    (w.setStyle place a).LooksLike base r r' (w'.setStyle place b) := by
  refine h.write (w.cell?_setStyle place · a) (w'.cell?_setStyle place · b) rfl rfl ?_
  have hfound := h.getD hbase place
  exact .some ⟨hfound.formula, hfound.value, hstyle⟩

theorem LooksLike.setFormula (h : w.LooksLike base r r' w') (hbase : 0 < base.size) (place : Coord)
    (formula : String) :
    (w.setFormula place formula).LooksLike base r r' (w'.setFormula place formula) := by
  have hlayout := withoutCells_setFormula w place formula
  have hlayout' := withoutCells_setFormula w' place formula
  cases hblank : isBlankText formula with
  | true =>
    refine h.write (cell?_setFormula_of_isBlankText hblank w place)
      (cell?_setFormula_of_isBlankText hblank w' place) hlayout hlayout' ?_
    obtain ⟨hnone, hnone'⟩ | ⟨cell, cell', hcell, hcell', hlooks⟩ := h.cell?_cases place
    · rw [hnone, hnone']
      exact .none
    · rw [hcell, hcell']
      exact .some ⟨rfl, hlooks.value, hlooks.style⟩
  | false =>
    refine h.write (cell?_setFormula hblank w place) (cell?_setFormula hblank w' place) hlayout
      hlayout' ?_
    exact .some ⟨rfl, rfl, (h.getD hbase place).style⟩

/-- A cell in the default style is removed when it is cleared.  It is in the default style in both
sheets. -/
theorem LooksLike.clearCell (h : w.LooksLike base r r' w') (hbase : 0 < base.size) (place : Coord) :
    (w.clearCell place).LooksLike base r r' (w'.clearCell place) := by
  refine h.write (w.cell?_clearCell place) (w'.cell?_clearCell place)
    (w.withoutCells_clearCell place) (w'.withoutCells_clearCell place) ?_
  obtain ⟨hnone, hnone'⟩ | ⟨cell, cell', hcell, hcell', hlooks⟩ := h.cell?_cases place
  · rw [hnone, hnone']
    exact .none
  · rw [hcell, hcell', Option.bind_some, Option.bind_some]
    have hzero := hlooks.style.eq_zero_iff hbase
    by_cases hstyle : cell.style = 0
    · rw [if_pos hstyle, if_pos (hzero.1 hstyle)]
      exact .none
    · rw [if_neg hstyle, if_neg fun hstyle' => hstyle (hzero.2 hstyle')]
      exact .some ⟨rfl, rfl, hlooks.style⟩

theorem LooksLike.setRowHeight (h : w.LooksLike base r r' w') (row : Nat) (height : Float) :
    (w.setRowHeight row height).LooksLike base r r' (w'.setRowHeight row height) :=
  ⟨congrArg (·.setRowHeight row height) h.withoutCells, h.cells⟩

end Worksheet

theorem Worksheet.LooksLike.applyFilter {base r r' : StyleRegistry} {w w' : Worksheet}
    (h : w.LooksLike base r r' w') (job : TableJob) (count : Nat) :
    (job.applyFilter count w).LooksLike base r r' (job.applyFilter count w') := by
  unfold TableJob.applyFilter
  split
  · exact h
  · next region _ _ =>
    exact ⟨congrArg (fun w : Worksheet => { w with filter := some region }) h.withoutCells, h.cells⟩
  · exact h

/-! ## Writing the same record -/

section Write

variable {base r r' : StyleRegistry} {w w' v v' : Worksheet} {functions : FunctionTable}
  {place : Coord} {column : TableColumn} {sample : Sample} {record : Record}

theorem looksLike_writeSubtotal (h : w.LooksLike base r r' w') (hbase : 0 < base.size)
    (place : Coord) (column : TableColumn) (record : Record) :
    (writeSubtotal w place column record).LooksLike base r r'
      (writeSubtotal w' place column record) := by
  have hcleared := h.clearCell hbase place
  unfold writeSubtotal
  dsimp only
  split
  · exact hcleared.setFormula hbase place _
  · split
    · exact hcleared.setValue hbase place _
    · exact hcleared
  · exact hcleared

/-- What can be done to the cell of a data record. -/
inductive CellEdit where
  | setFormula (formula : String)
  | setValue (value : CellValue)
  | clear

/-- A sheet with an edited cell. -/
def CellEdit.apply (place : Coord) (w : Worksheet) : CellEdit → Worksheet
  | setFormula formula => w.setFormula place formula
  | setValue value => w.setValue place value
  | clear => w.clearCell place

theorem CellEdit.looksLike_apply (h : w.LooksLike base r r' w') (hbase : 0 < base.size)
    (place : Coord) (edit : CellEdit) :
    (edit.apply place w).LooksLike base r r' (edit.apply place w') := by
  cases edit with
  | setFormula formula => exact h.setFormula hbase place formula
  | setValue value => exact h.setValue hbase place value
  | clear => exact h.clearCell hbase place

/-- What is written does not depend on what the sheet holds. -/
theorem exists_writeContent_eq (functions : FunctionTable) (place : Coord) (column : TableColumn)
    (sample : Sample) (record : Record) : ∃ outcome : Except TemplateError CellEdit,
      ∀ w, writeContent functions w place column sample record = outcome.map (·.apply place w) := by
  unfold writeContent
  cases sample.formula with
  | some formula =>
    refine ⟨(retargetFormula formula (place.row + 1) renderShift).map .setFormula, fun w => ?_⟩
    dsimp only
    cases retargetFormula formula (place.row + 1) renderShift <;> rfl
  | none =>
    by_cases htemplate : column.isTemplate = true
    · refine ⟨(renderText functions record.toJson column.dataField).map (.setValue <| .text ·),
        fun w => ?_⟩
      dsimp only
      rw [if_pos htemplate]
      cases renderText functions record.toJson column.dataField <;> rfl
    · simp only [if_neg htemplate]
      cases record.field? column.dataField with
      | none => exact ⟨.ok .clear, fun w => rfl⟩
      | some value =>
        cases value with
        | formula formula => exact ⟨.ok (.setFormula formula), fun w => rfl⟩
        | text text => exact ⟨.ok (.setValue (.text text)), fun w => rfl⟩
        | number x => exact ⟨.ok (.setValue (.number x)), fun w => rfl⟩
        | boolean b => exact ⟨.ok (.setValue (.boolean b)), fun w => rfl⟩

theorem looksLike_writeContent (h : w.LooksLike base r r' w') (hbase : 0 < base.size)
    (hwrite : writeContent functions w place column sample record = .ok v)
    (hwrite' : writeContent functions w' place column sample record = .ok v') :
    v.LooksLike base r r' v' := by
  obtain ⟨outcome, houtcome⟩ := exists_writeContent_eq functions place column sample record
  rw [houtcome] at hwrite hwrite'
  cases outcome with
  | error e => cases hwrite
  | ok edit =>
    obtain rfl := Except.ok.inj hwrite
    obtain rfl := Except.ok.inj hwrite'
    exact edit.looksLike_apply h hbase place

end Write

/-! ## Two runs -/

/-- Two runs write the same records, and so far into sheets that look the same. -/
structure RunsAlike (base first first' : StyleRegistry) (records : List Record) (s t : TableState) :
    Prop where
  remembers : s.resolver.Remembers first records s.styles
  remembers' : t.resolver.Remembers first' records t.styles
  looks : s.sheet.LooksLike base s.styles t.styles t.sheet

section Runs

variable {base first first' : StyleRegistry} {records : List Record} {job : TableJob}
  {s t s' t' : TableState} {position : Nat} {record : Record}
  (hbase : base.IsBuilt) (hfirst : base.Grows first) (hfirst' : base.Grows first')

include hbase hfirst hfirst'

theorem RunsAlike.writeCell {column : TableColumn} (h : RunsAlike base first first' records s t)
    (hat : records[position]? = some record)
    (hsamples : ∀ sample ∈ column.samples, sample.style < base.size)
    (hs : job.writeCell position record column s = ⟨s', none⟩)
    (ht : job.writeCell position record column t = ⟨t', none⟩) :
    RunsAlike base first first' records s' t' := by
  have hpos := hbase.size_pos
  obtain ⟨⟨hremembers, hgrows⟩, -⟩ := TableJob.writeCell_spec h.remembers hat hs
  obtain ⟨⟨hremembers', hgrows'⟩, -⟩ := TableJob.writeCell_spec h.remembers' hat ht
  refine ⟨hremembers, hremembers', ?_⟩
  obtain ⟨sample, hsample, hrun⟩ := TableJob.writeCell_cases hs
  obtain ⟨sample', hsample', hrun'⟩ := TableJob.writeCell_cases ht
  obtain rfl := Option.some.inj (hsample.symm.trans hsample')
  obtain ⟨hsubtotal, rfl⟩ | ⟨hdata, sheet, style, hwrite, hresolve, hsheet⟩ := hrun
  · obtain ⟨-, rfl⟩ | ⟨hdata, -⟩ := hrun'
    · exact (looksLike_writeSubtotal h.looks hpos _ column record).setStyle hpos _
        (.refl_of_lt _ _ hpos)
    · rw [hsubtotal] at hdata
      cases hdata
  · obtain ⟨hsubtotal, -⟩ | ⟨-, sheet', style', hwrite', hresolve', hsheet'⟩ := hrun'
    · rw [hsubtotal] at hdata
      cases hdata
    · have hlooks := looksLike_writeContent h.looks hpos hwrite hwrite'
      obtain ⟨-, -, hstyle⟩ := h.remembers.resolve hat hresolve
      obtain ⟨-, -, hstyle'⟩ := h.remembers'.resolve hat hresolve'
      have hid := hsamples sample (List.mem_of_getElem? hsample)
      rw [hsheet, hsheet']
      exact (hlooks.mono hgrows hgrows').setStyle hpos _
        (.of_resolvedStyle hbase.coherent hfirst hfirst' hid hstyle hstyle')

theorem RunsAlike.writeCells {columns : List TableColumn}
    (h : RunsAlike base first first' records s t) (hat : records[position]? = some record)
    (hsamples : samplesBelow columns base.size)
    (hs : job.writeCells position record columns s = ⟨s', none⟩)
    (ht : job.writeCells position record columns t = ⟨t', none⟩) :
    RunsAlike base first first' records s' t' := by
  induction columns generalizing s t with
  | nil =>
    obtain ⟨rfl, -⟩ := WriteOutcome.mk.inj hs
    obtain ⟨rfl, -⟩ := WriteOutcome.mk.inj ht
    exact h
  | cons column columns ih =>
    obtain ⟨hcolumn, hcolumns⟩ := List.forall_mem_cons.1 hsamples
    obtain ⟨s₁, hcell, hrest⟩ := TableJob.writeCells_cons hs
    obtain ⟨t₁, hcell', hrest'⟩ := TableJob.writeCells_cons ht
    have hnext := h.writeCell hbase hfirst hfirst' hat hcolumn hcell hcell'
    exact ih hnext hcolumns hrest hrest'

theorem RunsAlike.writeRow (h : RunsAlike base first first' records s t)
    (hat : records[position]? = some record) (hsamples : samplesBelow job.plan.columns base.size)
    (hs : job.writeRow position record s = ⟨s', none⟩)
    (ht : job.writeRow position record t = ⟨t', none⟩) :
    RunsAlike base first first' records s' t' := by
  unfold TableJob.writeRow at hs ht
  cases hheight : job.rowHeight? position record with
  | none =>
    rw [hheight] at hs ht
    exact h.writeCells hbase hfirst hfirst' hat hsamples hs ht
  | some height =>
    rw [hheight] at hs ht
    have hsized : RunsAlike base first first' records
        { s with sheet := s.sheet.setRowHeight (job.firstRow + position) height }
        { t with sheet := t.sheet.setRowHeight (job.firstRow + position) height } :=
      ⟨h.remembers, h.remembers', h.looks.setRowHeight _ height⟩
    exact hsized.writeCells hbase hfirst hfirst' hat hsamples hs ht

/-- The records from a position on. -/
theorem RunsAlike.writeRecords {rest : List Record} (h : RunsAlike base first first' records s t)
    (hrest : ∀ i, rest[i]? = records[position + i]?)
    (hsamples : samplesBelow job.plan.columns base.size)
    (hs : job.writeRecords position rest s = ⟨s', none⟩)
    (ht : job.writeRecords position rest t = ⟨t', none⟩) :
    RunsAlike base first first' records s' t' := by
  induction rest generalizing position s t with
  | nil =>
    obtain ⟨rfl, -⟩ := WriteOutcome.mk.inj hs
    obtain ⟨rfl, -⟩ := WriteOutcome.mk.inj ht
    exact h
  | cons record rest ih =>
    have hnext : ∀ i, rest[i]? = records[position + 1 + i]? := fun i => by
      rw [Nat.add_assoc, Nat.add_comm 1 i, ← hrest (i + 1), List.getElem?_cons_succ]
    obtain ⟨s₁, hrow, hrun⟩ := TableJob.writeRecords_cons hs
    obtain ⟨t₁, hrow', hrun'⟩ := TableJob.writeRecords_cons ht
    have hat : records[position]? = some record := (hrest 0).symm
    exact ih (h.writeRow hbase hfirst hfirst' hat hsamples hrow hrow') hnext hrun hrun'

/-- All records, and the filter behind them. -/
theorem RunsAlike.writeRows (h : RunsAlike base first first' records s t)
    (hsamples : samplesBelow job.plan.columns base.size)
    (hs : job.writeRows records s = ⟨s', none⟩) (ht : job.writeRows records t = ⟨t', none⟩) :
    RunsAlike base first first' records s' t' := by
  obtain ⟨s₁, hrun, rfl⟩ := TableJob.writeRows_cases hs
  obtain ⟨t₁, hrun', rfl⟩ := TableJob.writeRows_cases ht
  have hdone := h.writeRecords hbase hfirst hfirst' (fun i => by rw [Nat.zero_add]) hsamples hrun hrun'
  exact ⟨hdone.remembers, hdone.remembers', hdone.looks.applyFilter job records.length⟩

end Runs

/-! ## Filling in a sheet -/

namespace Renderer

variable {r : Renderer} {data : Json} {base styles styles' last last' : StyleRegistry}
  {w v v' : Worksheet}

/-- A table that is filled in: its records are known before anything is written. -/
theorem renderTable_cases {plan : TablePlan} (h : r.renderTable data plan styles w = .ok (v, last)) :
    ∃ firstRow given, plan.firstRow = some firstRow ∧ recordsOf data r.listField = .ok given ∧
      writeTable { plan, firstRow, functions := r.functions }
        (applySubtotals (plan.subtotals r.labels) (firstRow + 1) given) styles (plan.strip w) =
          .ok (v, last) := by
  unfold renderTable at h
  cases hfirst : plan.firstRow with
  | none =>
    rw [hfirst] at h
    cases h
  | some firstRow =>
    rw [hfirst] at h
    cases hgiven : recordsOf data r.listField with
    | error e =>
      rw [hgiven] at h
      cases h
    | ok given =>
      rw [hgiven] at h
      dsimp only [bind, Except.bind] at h
      split at h
      · exact ⟨firstRow, given, rfl, rfl, h⟩
      · cases h

/-- A sheet that is filled in: its plan is known before anything is written. -/
theorem renderSheet_cases (h : r.renderSheet data styles w = .ok (v, last)) :
    ∃ texts left plan, r.renderTexts data 0 w.textRows w = .ok texts ∧
      compileTable r.labels texts (fillAllMerged w.textRows texts.merged) = .ok (left, plan) ∧
      (plan.columns.isEmpty = true ∧ v = left ∧ last = styles ∨
        plan.columns.isEmpty = false ∧ r.renderTable data plan styles left = .ok (v, last)) := by
  unfold renderSheet at h
  cases htexts : r.renderTexts data 0 w.textRows w with
  | error e =>
    simp only [htexts, bind, Except.bind] at h
    cases h
  | ok texts =>
    simp only [htexts, bind, Except.bind] at h
    cases hplan : compileTable r.labels texts (fillAllMerged w.textRows texts.merged) with
    | error e =>
      rw [hplan] at h
      cases h
    | ok read =>
      obtain ⟨left, plan⟩ := read
      rw [hplan] at h
      refine ⟨texts, left, plan, rfl, hplan, ?_⟩
      dsimp only at h
      by_cases hempty : plan.columns.isEmpty = true
      · rw [if_pos hempty] at h
        obtain ⟨rfl, rfl⟩ := Prod.mk.inj (Except.ok.inj h)
        exact .inl ⟨hempty, rfl, rfl⟩
      · rw [if_neg hempty] at h
        exact .inr ⟨Bool.eq_false_of_not_eq_true hempty, h⟩

section Sheet

variable (hbase : base.IsBuilt) (hstyles : base.Grows styles) (hstyles' : base.Grows styles')

include hbase hstyles hstyles'

theorem writeTable_looksLike {job : TableJob} {records : List Record}
    (hw : w.UsesBelow base.size) (hsamples : samplesBelow job.plan.columns base.size)
    (h : writeTable job records styles w = .ok (v, last))
    (h' : writeTable job records styles' w = .ok (v', last')) :
    styles.Grows last ∧ styles'.Grows last' ∧ v.LooksLike base last last' v' := by
  have hreserved := usesBelow_reserveRows hw job.firstRow records.length
  obtain ⟨rfl, rfl, rfl⟩ | ⟨hsome, s, hs, rfl, rfl⟩ := writeTable_cases h
  · obtain ⟨-, rfl, rfl⟩ | ⟨hsome, -⟩ := writeTable_cases h'
    · exact ⟨.refl, .refl, .refl hreserved _ _⟩
    · exact absurd rfl hsome
  · obtain ⟨hnone, -⟩ | ⟨-, t, ht, rfl, rfl⟩ := writeTable_cases h'
    · exact absurd hnone hsome
    · have hstart : RunsAlike base styles styles' records
          { sheet := reserveRows job.firstRow records.length w, styles }
          { sheet := reserveRows job.firstRow records.length w, styles := styles' } :=
        ⟨StyleResolver.remembers_init styles records, StyleResolver.remembers_init styles' records,
          .refl hreserved _ _⟩
      have hdone := hstart.writeRows hbase hstyles hstyles' hsamples hs ht
      exact ⟨hdone.remembers.grown, hdone.remembers'.grown, hdone.looks⟩

theorem renderTable_looksLike {plan : TablePlan} (hw : w.UsesBelow base.size)
    (hsamples : samplesBelow plan.columns base.size)
    (h : r.renderTable data plan styles w = .ok (v, last))
    (h' : r.renderTable data plan styles' w = .ok (v', last')) :
    styles.Grows last ∧ styles'.Grows last' ∧ v.LooksLike base last last' v' := by
  obtain ⟨firstRow, given, hfirst, hgiven, hwrite⟩ := renderTable_cases h
  obtain ⟨firstRow', given', hfirst', hgiven', hwrite'⟩ := renderTable_cases h'
  obtain rfl := Option.some.inj (hfirst.symm.trans hfirst')
  obtain rfl := Except.ok.inj (hgiven.symm.trans hgiven')
  exact writeTable_looksLike hbase hstyles hstyles' (usesBelow_strip hw plan) hsamples hwrite hwrite'

/-- A sheet is filled in twice with the same data, from registries that grew from one.  Both times it
looks the same, and the registries only grow. -/
theorem renderSheet_looksLike (hw : w.UsesBelow base.size)
    (h : r.renderSheet data styles w = .ok (v, last))
    (h' : r.renderSheet data styles' w = .ok (v', last')) :
    styles.Grows last ∧ styles'.Grows last' ∧ v.LooksLike base last last' v' := by
  have hpos := hbase.size_pos
  obtain ⟨texts, left, plan, htexts, hplan, hrun⟩ := renderSheet_cases h
  obtain ⟨texts', left', plan', htexts', hplan', hrun'⟩ := renderSheet_cases h'
  -- Texts and plan do not depend on the registry.
  obtain rfl := Except.ok.inj (htexts.symm.trans htexts')
  obtain ⟨rfl, rfl⟩ := Prod.mk.inj (Except.ok.inj (hplan.symm.trans hplan'))
  obtain ⟨hleft, hsamples⟩ := usesBelow_compileTable (usesBelow_renderTexts hw hpos htexts) hpos hplan
  obtain ⟨hempty, rfl, rfl⟩ | ⟨hcolumns, htable⟩ := hrun
  · obtain ⟨-, rfl, rfl⟩ | ⟨hcolumns, -⟩ := hrun'
    · exact ⟨.refl, .refl, .refl hleft _ _⟩
    · rw [hempty] at hcolumns
      cases hcolumns
  · obtain ⟨hempty, -⟩ | ⟨-, htable'⟩ := hrun'
    · rw [hempty] at hcolumns
      cases hcolumns
    · exact renderTable_looksLike hbase hstyles hstyles' hleft hsamples htable htable'

end Sheet

/-! ## Two reports -/

theorem renderSheets_cons {d : ReportData} {position : Nat} {rest done : List Worksheet}
    (h : r.renderSheets d position styles (w :: rest) = .ok (done, last)) :
    ∃ v next others, r.renderSheet ((d.sheet? position).getD noData) styles w = .ok (v, next) ∧
      r.renderSheets d (position + 1) next rest = .ok (others, last) ∧ done = v :: others := by
  rw [renderSheets] at h
  cases hsheet : r.renderSheet ((d.sheet? position).getD noData) styles w with
  | error e =>
    rw [hsheet] at h
    cases h
  | ok result =>
    obtain ⟨v, next⟩ := result
    simp only [hsheet, Except.mapError, bind, Except.bind] at h
    cases hrest : r.renderSheets d (position + 1) next rest with
    | error e =>
      rw [hrest] at h
      cases h
    | ok result =>
      obtain ⟨others, last'⟩ := result
      rw [hrest] at h
      obtain ⟨rfl, rfl⟩ := Prod.mk.inj (Except.ok.inj h)
      exact ⟨v, next, others, rfl, hrest, rfl⟩

/-- All sheets are filled in twice. Where the data agree, the sheets look the same. -/
theorem renderSheets_looksLike (hbase : base.IsBuilt) {d d' : ReportData} {position : Nat}
    {sheets done done' : List Worksheet} (hstyles : base.Grows styles)
    (hstyles' : base.Grows styles') (hsheets : ∀ w ∈ sheets, w.UsesBelow base.size)
    (h : r.renderSheets d position styles sheets = .ok (done, last))
    (h' : r.renderSheets d' position styles' sheets = .ok (done', last')) :
    styles.Grows last ∧ styles'.Grows last' ∧ ∀ i < sheets.length,
      (d.sheet? (position + i)).getD noData = (d'.sheet? (position + i)).getD noData →
        ∃ v v', done[i]? = some v ∧ done'[i]? = some v' ∧ v.LooksLike base last last' v' := by
  induction sheets generalizing position styles styles' done done' with
  | nil =>
    obtain ⟨rfl, rfl⟩ := Prod.mk.inj (Except.ok.inj h)
    obtain ⟨rfl, rfl⟩ := Prod.mk.inj (Except.ok.inj h')
    exact ⟨.refl, .refl, fun i hi => absurd hi (Nat.not_lt_zero i)⟩
  | cons w sheets ih =>
    obtain ⟨hw, hsheets⟩ := List.forall_mem_cons.1 hsheets
    obtain ⟨v, next, others, hsheet, hrest, rfl⟩ := renderSheets_cons h
    obtain ⟨v', next', others', hsheet', hrest', rfl⟩ := renderSheets_cons h'
    -- A run compared with itself shows that its registry grows, whatever the other one does.
    have hgrows := (renderSheet_looksLike hbase hstyles hstyles hw hsheet hsheet).1
    have hgrows' := (renderSheet_looksLike hbase hstyles' hstyles' hw hsheet' hsheet').1
    obtain ⟨hlast, hlast', hlooks⟩ :=
      ih (hstyles.trans hgrows) (hstyles'.trans hgrows') hsheets hrest hrest'
    refine ⟨hgrows.trans hlast, hgrows'.trans hlast', fun i hi hdata => ?_⟩
    cases i with
    | zero =>
      rw [Nat.add_zero] at hdata
      rw [← hdata] at hsheet'
      have hfirst := (renderSheet_looksLike hbase hstyles hstyles' hw hsheet hsheet').2.2
      exact ⟨v, v', rfl, rfl, hfirst.mono hlast hlast'⟩
    | succ i =>
      rw [show position + (i + 1) = position + 1 + i by omega] at hdata
      exact hlooks i (Nat.lt_of_succ_lt_succ hi) hdata

end Renderer

/-- Two sheets of two workbooks show the same, but for the values of formulas: they have one layout,
cells at the same places, and these have the same formulas, the same values where there is no formula,
and the same styles. -/
structure Worksheet.ShowsSame (styles styles' : StyleRegistry) (w w' : Worksheet) : Prop where
  name : w.name = w'.name
  rowHeights : w.rowHeights = w'.rowHeights
  columnWidths : w.columnWidths = w'.columnWidths
  merged : w.merged = w'.merged
  filter : w.filter = w'.filter
  cells : ∀ place, Option.Rel
    (fun cell cell' : Cell => cell.formula = cell'.formula ∧
      (cell.formula = none → cell.value = cell'.value) ∧
      styles.get cell.style = styles'.get cell'.style)
    (w.cell? place) (w'.cell? place)

section Recalculation

variable {base r r' : StyleRegistry} {w w' v v' : Worksheet}

theorem Cell.eq_of_withoutCached_eq {cell cell' : Cell} (h : cell.withoutCached = cell'.withoutCached) :
    cell.formula = cell'.formula ∧ (cell.formula = none → cell.value = cell'.value) ∧
      cell.style = cell'.style := by
  have hformula : cell.formula = cell'.formula := by
    rw [← formula_withoutCached, h, formula_withoutCached]
  have hstyle (cell : Cell) : cell.withoutCached.style = cell.style := by
    unfold withoutCached
    split <;> rfl
  refine ⟨hformula, fun hnone => ?_, by rw [← hstyle, h, hstyle]⟩
  rw [← withoutCached_of_formula_eq_none hnone, h,
    withoutCached_of_formula_eq_none (hformula.symm.trans hnone)]

theorem Worksheet.map_cell?_eq (h : v.withoutCached = w.withoutCached) (place : Coord) :
    (v.cell? place).map Cell.withoutCached = (w.cell? place).map Cell.withoutCached := by
  have hget := congrArg (fun w : Worksheet => w.cell? place) h
  rwa [cell?, cell?, withoutCached, withoutCached, Grid.get?_mapCells, Grid.get?_mapCells] at hget

theorem Worksheet.withoutCells_eq (h : v.withoutCached = w.withoutCached) :
    v.withoutCells = w.withoutCells := by
  have hlayout := congrArg Worksheet.withoutCells h
  exact hlayout

/-- Sheets that look the same show the same after formulas have been evaluated. -/
theorem Worksheet.LooksLike.showsSame (h : w.LooksLike base r r' w') (hgrows : base.Grows r)
    (hgrows' : base.Grows r') (hv : v.withoutCached = w.withoutCached)
    (hv' : v'.withoutCached = w'.withoutCached) : v.ShowsSame r r' v' := by
  have hlayout : v.withoutCells = v'.withoutCells := by
    rw [withoutCells_eq hv, h.withoutCells, withoutCells_eq hv']
  refine ⟨congrArg (·.name) hlayout, congrArg (·.rowHeights) hlayout,
    congrArg (·.columnWidths) hlayout, congrArg (·.merged) hlayout, congrArg (·.filter) hlayout,
    fun place => ?_⟩
  have hcell := map_cell?_eq hv place
  have hcell' := map_cell?_eq hv' place
  obtain ⟨hnone, hnone'⟩ | ⟨old, old', hold, hold', hlooks⟩ := h.cell?_cases place
  · rw [hnone, Option.map_none, Option.map_eq_none_iff] at hcell
    rw [hnone', Option.map_none, Option.map_eq_none_iff] at hcell'
    rw [hcell, hcell']
    exact .none
  · rw [hold, Option.map_some, Option.map_eq_some_iff] at hcell
    rw [hold', Option.map_some, Option.map_eq_some_iff] at hcell'
    obtain ⟨new, hnew, heq⟩ := hcell
    obtain ⟨new', hnew', heq'⟩ := hcell'
    obtain ⟨hformula, hvalue, hstyle⟩ := Cell.eq_of_withoutCached_eq heq
    obtain ⟨hformula', hvalue', hstyle'⟩ := Cell.eq_of_withoutCached_eq heq'
    have hsame : new.formula = new'.formula := by rw [hformula, hlooks.formula, hformula']
    rw [hnew, hnew']
    refine .some ⟨hsame, fun hplain => ?_, ?_⟩
    · rw [hvalue hplain, hlooks.value, hvalue' (hsame.symm.trans hplain)]
    · rw [hstyle, hstyle', hlooks.style.get_eq hgrows hgrows']

end Recalculation

/-- A report is filled in and recalculated. -/
theorem Renderer.render_cases {r : Renderer} {d : ReportData} {template b : Workbook}
    (h : r.render d template = .ok b) : ∃ sheets,
      r.renderSheets d 0 template.styles template.sheets = .ok (sheets, b.styles) ∧
        b.sheets.map Worksheet.withoutCached = sheets.map Worksheet.withoutCached := by
  unfold render at h
  cases hsheets : r.renderSheets d 0 template.styles template.sheets with
  | error e =>
    rw [hsheets] at h
    cases h
  | ok result =>
    obtain ⟨sheets, styles⟩ := result
    rw [hsheets] at h
    obtain rfl := Except.ok.inj h
    have hkept : (⟨sheets, styles⟩ : Workbook).recalculate.withoutCached =
        (⟨sheets, styles⟩ : Workbook).withoutCached := by
      rw [Workbook.recalculate, Workbook.recalculatePasses_eq_iterate, Workbook.withoutCached_iterate]
    obtain ⟨hmap, hstyles⟩ := Workbook.mk.inj hkept
    refine ⟨sheets, ?_, hmap⟩
    rw [hstyles]

/-- Two reports are made from one template, whose cells use registered styles.  A sheet that is given
the same data in both shows the same in both, whatever the other sheets are given: layout, stored
places, formulas, values that are not calculated, and styles, each by the registry of its report. -/
theorem Renderer.render_isolated (r : Renderer) {template b b' : Workbook} {d d' : ReportData}
    (hstyles : template.styles.IsBuilt)
    (hcells : ∀ w ∈ template.sheets, ∀ place cell, w.cell? place = some cell →
      template.styles.contains cell.style = true)
    (h : r.render d template = .ok b) (h' : r.render d' template = .ok b') {i : Nat}
    (hi : i < template.sheets.length)
    (hdata : (d.sheet? i).getD noData = (d'.sheet? i).getD noData) :
    ∃ w w', b.sheets[i]? = some w ∧ b'.sheets[i]? = some w' ∧
      w.ShowsSame b.styles b'.styles w' := by
  obtain ⟨done, hrun, hkept⟩ := render_cases h
  obtain ⟨done', hrun', hkept'⟩ := render_cases h'
  have hbelow : ∀ w ∈ template.sheets, w.UsesBelow template.styles.size :=
    fun w hw place cell hcell => of_decide_eq_true (hcells w hw place cell hcell)
  obtain ⟨hgrows, hgrows', hsheets⟩ := renderSheets_looksLike hstyles .refl .refl hbelow hrun hrun'
  rw [← Nat.zero_add i] at hdata
  obtain ⟨v, v', hv, hv', hlooks⟩ := hsheets i hi hdata
  have hget : b.sheets[i]?.map Worksheet.withoutCached = some v.withoutCached := by
    rw [← List.getElem?_map, hkept, List.getElem?_map, hv, Option.map_some]
  have hget' : b'.sheets[i]?.map Worksheet.withoutCached = some v'.withoutCached := by
    rw [← List.getElem?_map, hkept', List.getElem?_map, hv', Option.map_some]
  obtain ⟨w, hw, heq⟩ := Option.map_eq_some_iff.1 hget
  obtain ⟨w', hw', heq'⟩ := Option.map_eq_some_iff.1 hget'
  exact ⟨w, w', hw, hw', hlooks.showsSame hgrows hgrows' heq heq'⟩

/-! ## Two tables in two colors -/

/-- The cells of a table whose items are on a colored background. -/
def tintCells (color : String) : List (Coord × Cell) :=
  [(⟨0, 0⟩, .ofValue (.text "Header")), (⟨0, 1⟩, .ofValue (.text "Item")),
    (⟨1, 0⟩, .ofValue (.text "DataField")), (⟨1, 1⟩, .ofValue (.text "item")),
    (⟨2, 0⟩, .ofValue (.text "BackgroundColor")), (⟨2, 1⟩, .ofValue (.text color)),
    (⟨3, 0⟩, .ofValue (.text "Data"))]

/-- The sheet with these cells. -/
def tintSheet (name color : String) : Worksheet where
  name
  grid := (tintCells color).foldl (fun grid (place, cell) => grid.set place cell) {}

/-- A red table and a blue one. -/
def tintTemplate : Workbook where
  sheets := [tintSheet "Red" "FF0000", tintSheet "Blue" "0000FF"]

def tintRenderer : Renderer where
  listField := "table"
  labels := .english

/-- Data with some red items and one blue one. -/
def tintData (red : List String) : ReportData :=
  let table (items : List String) : Json :=
    .object [("table", .array (items.map fun item => .object [("item", .string item)]))]
  .perSheet [table red, table ["ink"]]

/-- The style number of the blue item. -/
def blueStyle? (d : ReportData) : Option Nat :=
  (tintRenderer.render d tintTemplate).toOption.bind fun b =>
    b.sheets[1]?.map (·.style ⟨1, 0⟩)

theorem exists_of_blueStyle?_eq_some {d : ReportData} {id : Nat} (h : blueStyle? d = some id) :
    ∃ b w, tintRenderer.render d tintTemplate = .ok b ∧ b.sheets[1]? = some w ∧
      w.style ⟨1, 0⟩ = id := by
  unfold blueStyle? at h
  cases hrender : tintRenderer.render d tintTemplate with
  | error e =>
    rw [hrender] at h
    cases h
  | ok b =>
    rw [hrender] at h
    obtain ⟨w, hw, hstyle⟩ := Option.map_eq_some_iff.1 h
    exact ⟨b, w, rfl, hw, hstyle⟩

theorem contains_tintTemplate : ∀ w ∈ tintTemplate.sheets, ∀ place cell, w.cell? place = some cell →
    tintTemplate.styles.contains cell.style = true := by
  have hsheet (name color : String) (place : Coord) (cell : Cell)
      (h : (tintSheet name color).cell? place = some cell) : cell.style = 0 := by
    have hplain : ∀ entry ∈ tintCells color, entry.2.style = 0 := by
      simp [tintCells, Cell.ofValue]
    obtain hmem | hget := Grid.mem_or_of_get?_foldl_set h
    · exact hplain _ hmem
    · cases hget
  intro w hw place cell hcell
  have hstyle : cell.style = 0 := by
    obtain rfl | hw := List.mem_cons.1 hw
    · exact hsheet _ _ place cell hcell
    · obtain rfl := List.mem_singleton.1 hw
      exact hsheet _ _ place cell hcell
  rw [hstyle]
  rfl

/-- Where there is a red item, the blue one has another style number, and is blue all the same. -/
theorem Renderer.render_isolated_tintTemplate : ∃ b b' w w',
    tintRenderer.render (tintData ["pen"]) tintTemplate = .ok b ∧
      tintRenderer.render (tintData []) tintTemplate = .ok b' ∧
      b.sheets[1]? = some w ∧ w.style ⟨1, 0⟩ = 2 ∧ b'.sheets[1]? = some w' ∧ w'.style ⟨1, 0⟩ = 1 ∧
      w.ShowsSame b.styles b'.styles w' := by
  have hstyle : blueStyle? (tintData ["pen"]) = some 2 := by decide +kernel
  have hstyle' : blueStyle? (tintData []) = some 1 := by decide +kernel
  obtain ⟨b, w, hrender, hw, hid⟩ := exists_of_blueStyle?_eq_some hstyle
  obtain ⟨b', w', hrender', hw', hid'⟩ := exists_of_blueStyle?_eq_some hstyle'
  obtain ⟨v, v', hv, hv', hsame⟩ := tintRenderer.render_isolated .initial contains_tintTemplate
    hrender hrender' (by decide : 1 < tintTemplate.sheets.length) rfl
  obtain rfl := Option.some.inj (hw.symm.trans hv)
  obtain rfl := Option.some.inj (hw'.symm.trans hv')
  exact ⟨b, b', w, w', hrender, hrender', hw, hid, hw', hid', hsame⟩

end SheetPress
