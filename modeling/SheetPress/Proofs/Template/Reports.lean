import SheetPress.Proofs.Template.Formulas
import SheetPress.Proofs.Template.Rows

/-!
# Sheets of reports

A sheet of a report is read as the plan of a table, and the table is written for the records of the
data and the summaries of their groups.  Formulas of a sheet that comes from a package, and of its
records, begin with `=`; so nothing has to be asked of them for the rows to be what the records make
them.

* `Renderer.compileSheet`, `Renderer.groupedRecords` — the plan and the records of a sheet.
* `Renderer.renderSheet_fills` — every record of a sheet is complete on its row.
* `Renderer.renderSheet_colors` — and it has the colors that the rules of its columns give.
-/

namespace SheetPress

namespace Renderer

/-- The plan of the table of a sheet, and what is left of the sheet. -/
def compileSheet (r : Renderer) (data : Json) (w : Worksheet) :
    Except TemplateError (Worksheet × TablePlan) := do
  let left ← r.renderTexts data 0 w.textRows w
  compileTable r.labels left (fillAllMerged w.textRows left.merged)

/-- The records of a sheet with the summaries of their groups; there are none as long as the sheet
has no plan. -/
def groupedRecords (r : Renderer) (data : Json) (w : Worksheet) : List Record :=
  match r.compileSheet data w, recordsOf data r.listField with
  | .ok (_, plan), .ok given =>
    applySubtotals (plan.subtotals r.labels) (plan.firstRow.getD 0 + 1) given
  | _, _ => []

theorem renderSheet_eq (r : Renderer) (data : Json) (styles : StyleRegistry) (w : Worksheet) :
    r.renderSheet data styles w = (r.compileSheet data w >>= fun (left, plan) =>
      if plan.columns.isEmpty then .ok (left, styles)
      else r.renderTable data plan styles left) := by
  rw [renderSheet, compileSheet]
  cases r.renderTexts data 0 w.textRows w <;> rfl

variable {r : Renderer} {data : Json} {w left done : Worksheet} {plan : TablePlan} {firstRow : Nat}
  {styles styles' : StyleRegistry}

/-! ## Formulas -/

theorem formulasMarked_of_compileSheet (hw : w.FormulasMarked)
    (h : r.compileSheet data w = .ok (left, plan)) :
    ∀ column ∈ plan.columns, column.FormulasMarked := by
  obtain ⟨rendered, hrendered, hplan⟩ := exists_of_bind_eq_ok h
  exact (planRead_of_compileTable hplan).columns.formulasMarked
    (formulasMarked_of_renderTexts hw hrendered)

theorem formulasMarked_groupedRecords (r : Renderer) (data : Json) (w : Worksheet) :
    ∀ record ∈ r.groupedRecords data w, record.FormulasMarked := by
  unfold groupedRecords
  split
  · next hgiven => exact formulasMarked_of_applySubtotals _ _ (formulasMarked_of_recordsOf hgiven)
  · exact fun _ hmem => absurd hmem List.not_mem_nil

/-! ## Rows -/

/-- A sheet that is filled in has its records written into the rows that are reserved for them. -/
theorem writeRows_of_renderSheet (hplan : r.compileSheet data w = .ok (left, plan))
    (hfirst : plan.firstRow = some firstRow) (hcolumns : plan.columns ≠ [])
    (hrecords : r.groupedRecords data w ≠ []) (h : r.renderSheet data styles w = .ok (done, styles')) :
    ∃ s, (TableJob.mk plan firstRow r.functions).writeRows (r.groupedRecords data w)
        { sheet := reserveRows firstRow (r.groupedRecords data w).length (plan.strip left), styles } =
          ⟨s, none⟩ ∧ s.sheet = done ∧ s.styles = styles' := by
  rw [renderSheet_eq, hplan] at h
  dsimp only [bind, Except.bind] at h
  rw [if_neg (by simpa using hcolumns), renderTable, hfirst] at h
  obtain ⟨given, hgiven, h⟩ := exists_of_bind_eq_ok h
  have hgrouped : r.groupedRecords data w =
      applySubtotals (plan.subtotals r.labels) (firstRow + 1) given := by
    rw [groupedRecords, hplan, hgiven]
    dsimp only
    rw [hfirst, Option.getD_some]
  dsimp only at h
  rw [← hgrouped] at h
  split at h
  · rw [writeTable, if_neg (by simpa using hrecords)] at h
    split at h
    · cases h
    · dsimp only at h
      split at h
      · next s hrun =>
        obtain ⟨hdone, hstyles⟩ := Prod.mk.inj (Except.ok.inj h)
        exact ⟨s, hrun, hdone, hstyles⟩
      · cases h
  · cases h

section Loaded

variable {p : Package} {texts : Array String} {entries : List SheetEntry}
  {parts : List (String × String)} {loaded : StyleRegistry} {entry : SheetEntry} {i : Nat}
  {record : Record} {column : TableColumn}

/-- Every record of a sheet that comes from a package is complete on its row: its cell in each column
is what the record and its sample make it. -/
theorem renderSheet_fills (hload : p.loadSheet texts entries parts loaded entry = .ok w)
    (hplan : r.compileSheet data w = .ok (left, plan)) (hfirst : plan.firstRow = some firstRow)
    (h : r.renderSheet data styles w = .ok (done, styles'))
    (hrecord : (r.groupedRecords data w)[i]? = some record) (hcolumn : column ∈ plan.columns) :
    ∃ cell, done.cell? ⟨firstRow + i, column.renderCol⟩ = some cell ∧
      TableJob.Filled ⟨plan, firstRow, r.functions⟩ styles styles' i record column cell := by
  have hmem : record ∈ r.groupedRecords data w := List.mem_of_getElem? hrecord
  obtain ⟨s, hrun, rfl, rfl⟩ := writeRows_of_renderSheet hplan hfirst (List.ne_nil_of_mem hcolumn)
    (List.ne_nil_of_mem hmem) h
  obtain ⟨rendered, -, hread⟩ := exists_of_bind_eq_ok hplan
  have hmarked : TableJob.Marked record column :=
    ⟨formulasMarked_groupedRecords r data w record hmem column.dataField,
      formulasMarked_of_compileSheet (Package.formulasMarked_of_loadSheet hload) hplan column hcolumn⟩
  exact TableJob.filled_of_writeRows (planRead_of_compileTable hread).columns.nodup_renderCol hrun
    hrecord hcolumn hmarked

/-- Where the rules of a column give colors for a record, its cell has the style of the sample in these
colors. -/
theorem renderSheet_colors (hload : p.loadSheet texts entries parts loaded entry = .ok w)
    (hplan : r.compileSheet data w = .ok (left, plan)) (hfirst : plan.firstRow = some firstRow)
    (h : r.renderSheet data styles w = .ok (done, styles')) (hcoherent : styles.Coherent)
    (hrecord : (r.groupedRecords data w)[i]? = some record) (hcolumn : column ∈ plan.columns)
    (hdata : record.isSubtotal = false) {background font : Option Color}
    (hbackground : ruleColor column.backgroundColor record = .ok background)
    (hfont : ruleColor column.fontColor record = .ok font)
    (hcolor : (background.isNone && font.isNone) = false) :
    ∃ sample cell, column.samples[record.sample.getD i % column.samples.length]? = some sample ∧
      done.cell? ⟨firstRow + i, column.renderCol⟩ = some cell ∧
      ∀ style, styles.styles[sample.style]? = some style →
        ∃ colored, styles'.styles[cell.style]? = some colored ∧
          style.Colored background font colored := by
  obtain ⟨cell, hcell, sample, content, id, hsample, -, hstyle, rfl⟩ :=
    renderSheet_fills hload hplan hfirst h hrecord hcolumn
  rw [if_neg (by rw [hdata]; exact Bool.false_ne_true)] at hstyle
  obtain ⟨background', font', hbackground', hfont', hid⟩ := hstyle
  obtain rfl := Except.ok.inj (hbackground.symm.trans hbackground')
  obtain rfl := Except.ok.inj (hfont.symm.trans hfont')
  rw [if_neg (by rw [hcolor]; exact Bool.false_ne_true)] at hid
  exact ⟨sample, _, hsample, hcell, fun style hbase => hid.exists_colored hcoherent hbase⟩

end Loaded

end Renderer

end SheetPress
