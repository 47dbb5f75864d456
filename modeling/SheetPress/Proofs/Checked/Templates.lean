import Mathlib
import SheetPress.Proofs.Checked.Sheets
import SheetPress.Proofs.Sheet.UsedArea
import SheetPress.Proofs.Template.Formulas
import SheetPress.Proofs.Template.MergedTexts

/-!
# Templates in checked arithmetic

Directive rows and the columns of a table are counted from 1 where a template is read, so that the
row below a header and the place of a column in the finished sheet are sums and differences of such
numbers.  They are in range because a template that fits a sheet has texts that fit one, its columns
start behind the first, and directive rows are deleted from the bottom up.

* `TextsFit.fillAllMerged` — the texts of a sheet that keeps within its limits.
* `checkedCompileTable_eq` — reading a plan.
* `TextsFit.withinLimits` — the rows and columns of a plan that was read.
* `TablePlan.WithinLimits.checkedStrip_eq` — taking its scaffolding out.
-/

namespace SheetPress

/-! ## Texts -/

/-- Rows of texts for which a sheet has rows and columns. -/
structure TextsFit (rows : List (List String)) : Prop where
  height : rows.length ≤ maxRows
  width : ∀ cells ∈ rows, cells.length ≤ maxColumns

section Texts

variable {w : Worksheet} {rows : List (List String)}

theorem length_setText (texts : List String) (col : Nat) (text : String) :
    (Worksheet.setText texts col text).length = max texts.length (col + 1) := by
  rw [Worksheet.setText, List.length_set, List.length_append, List.length_replicate]
  omega

theorem Worksheet.putText_cols {entry : Coord × Cell} (hcol : entry.1.col < maxColumns)
    (h : ∀ cells ∈ rows, cells.length ≤ maxColumns) :
    ∀ cells ∈ putText rows entry, cells.length ≤ maxColumns := by
  unfold putText
  split
  · exact h
  · intro cells hmem
    obtain ⟨i, hi, rfl⟩ := List.mem_iff_getElem.1 hmem
    rw [List.getElem_modify]
    have hold := h _ (List.getElem_mem (by simpa using hi))
    split
    · rw [length_setText]
      omega
    · exact hold

/-- The texts of a sheet fit it. -/
theorem textsFit_textRows (hbounds : w.grid.HasBounds) (h : w.WithinLimits) :
    TextsFit w.textRows where
  height := by
    rw [w.length_textRows]
    split
    · exact Nat.zero_le _
    · next hused =>
      obtain ⟨place, cell, hcell, hrow⟩ := hbounds.row.used.resolve_right fun hempty =>
        hused hempty.1
      rw [← hrow]
      exact (h.cells place cell hcell).1
  width := by
    have hfold : ∀ (entries : List (Coord × Cell)) (rows : List (List String)),
        (∀ entry ∈ entries, entry.1.col < maxColumns) →
        (∀ cells ∈ rows, cells.length ≤ maxColumns) →
        ∀ cells ∈ entries.foldl Worksheet.putText rows, cells.length ≤ maxColumns := by
      intro entries
      induction entries with
      | nil => exact fun rows _ hrows => hrows
      | cons entry entries ih =>
        intro rows hentries hrows
        obtain ⟨hentry, hentries⟩ := List.forall_mem_cons.1 hentries
        exact ih _ hentries (Worksheet.putText_cols hentry hrows)
    rw [w.textRows_eq]
    split
    · simp
    · refine hfold _ _ (fun entry hmem => ?_) fun cells hmem => ?_
      · exact (h.cells entry.1 entry.2 (Grid.mem_toList.1 hmem)).2
      · rw [List.eq_of_mem_replicate hmem]
        exact Nat.zero_le _

theorem TextsFit.fillMerged (h : TextsFit rows) {region : Region} (hregion : region.WithinLimits) :
    TextsFit (fillMerged rows region) where
  height := by
    have := hregion.endRow
    have := h.height
    rw [SheetPress.fillMerged, List.length_mapIdx, length_padTo]
    omega
  width := by
    intro cells hmem
    obtain ⟨row, hrow, rfl⟩ := List.mem_mapIdx.1 hmem
    have hold : ((padTo (region.endRow + 1) [] rows)[row]).length ≤ maxColumns := by
      rcases List.mem_append.1 (List.getElem_mem hrow) with hmem | hmem
      · exact h.width _ hmem
      · rw [List.eq_of_mem_replicate hmem]
        exact Nat.zero_le _
    have := hregion.endCol
    split
    · rw [List.length_mapIdx, length_padTo]
      omega
    · exact hold

theorem TextsFit.fillAllMerged (h : TextsFit rows) {regions : List Region}
    (hregions : ∀ region ∈ regions, region.WithinLimits) : TextsFit (fillAllMerged rows regions) := by
  unfold SheetPress.fillAllMerged
  induction regions generalizing rows with
  | nil => exact h
  | cons region regions ih =>
    obtain ⟨hregion, hregions⟩ := List.forall_mem_cons.1 hregions
    exact ih (h.fillMerged hregion) hregions

end Texts

/-! ### Rendered texts -/

section Rendering

variable {r : Renderer} {data : Json} {row : Nat} {w w' : Worksheet}

theorem Worksheet.WithinLimits.renderCells (h : w.WithinLimits) (hrow : row < maxRows) {col : Nat}
    {cells : List String} (hcols : col + cells.length ≤ maxColumns)
    (hrender : r.renderCells data row col cells w = .ok w') : w'.WithinLimits := by
  induction cells generalizing col w with
  | nil => exact Except.ok.inj hrender ▸ h
  | cons text cells ih =>
    rw [List.length_cons] at hcols
    rw [Renderer.renderCells] at hrender
    split at hrender
    · obtain ⟨rendered, -, hrest⟩ := exists_of_bind_eq_ok hrender
      exact ih (h.setValue hrow (by dsimp only; omega) _) (by omega) hrest
    · exact ih h (by omega) hrender

/-- Rendered texts take the places of texts that were there. -/
theorem Worksheet.WithinLimits.renderTexts (h : w.WithinLimits) {rows : List (List String)}
    (hrows : row + rows.length ≤ maxRows) (hcols : ∀ cells ∈ rows, cells.length ≤ maxColumns)
    (hrender : r.renderTexts data row rows w = .ok w') : w'.WithinLimits := by
  induction rows generalizing row w with
  | nil => exact Except.ok.inj hrender ▸ h
  | cons cells rows ih =>
    rw [List.length_cons] at hrows
    obtain ⟨hcells, hcols⟩ := List.forall_mem_cons.1 hcols
    rw [Renderer.renderTexts] at hrender
    split at hrender
    · exact ih h (by omega) hcols hrender
    · obtain ⟨between, hrow, hrest⟩ := exists_of_bind_eq_ok hrender
      exact ih (h.renderCells (by omega) (by omega) hrow) (by omega) hcols hrest

end Rendering

/-! ## Numbered plans -/

/-- A column of the table with its numbers in the template and in the finished sheet, which count
from 1. -/
structure NumberedColumn where
  number : Nat
  renderNumber : Nat
  column : TableColumn

/-- A directive row with its number, which counts from 1. -/
structure NumberedRow where
  number : Nat
  row : DirectiveRow

/-- A plan that keeps the numbers of rows and columns. -/
structure NumberedPlan where
  columns : List NumberedColumn := []
  directives : List NumberedRow := []
  /-- The number of the row of the first record. -/
  firstRow : Option Nat := none

def TableColumn.numbered (c : TableColumn) : NumberedColumn := ⟨c.templateCol + 1, c.templateCol, c⟩

def DirectiveRow.numbered (d : DirectiveRow) : NumberedRow := ⟨d.row + 1, d⟩

def TablePlan.numbered (plan : TablePlan) : NumberedPlan where
  columns := plan.columns.map TableColumn.numbered
  directives := plan.directives.map DirectiveRow.numbered
  firstRow := plan.firstRow.map (· + 1)

/-- A sheet and the numbered plan that was read from it. -/
def numberedState : Worksheet × TablePlan → Worksheet × NumberedPlan := Prod.map id TablePlan.numbered

/-! ### Reading directive rows -/

/-- Opens a column. Its letters are made in the template and in the finished sheet. -/
def checkedOpenColumn (number : Nat) (header : String) : Checked NumberedColumn := do
  let renderNumber ← minus number 1
  let templateCol ← minus number 1
  let _ ← checkedColumnName templateCol
  let _ ← checkedColumnName (renderNumber - 1)
  return { number, renderNumber, column := { templateCol, header } }

/-- Reads one cell of a directive row. -/
def checkedReadCell (kind : DirectiveKind) (number : Nat) (text : String)
    (columns : List NumberedColumn) : Checked (List NumberedColumn) :=
  if columns.any (·.number == number) then
    return columns.map fun c =>
      if c.number = number then { c with column := c.column.tell kind text } else c
  else if kind = .header ∧ !isBlankText text then do
    return columns ++ [← checkedOpenColumn number text]
  else pure columns

/-- Reads the cells of a directive row from a column on. -/
def checkedReadCells (sheet : String) (kind : DirectiveKind) (row : Nat) :
    Nat → List String → List NumberedColumn → Checked (List NumberedColumn)
  | _, [], columns => pure columns
  | col, text :: rest, columns => do
    let number ← plus col 1
    if col < maxColumns then
      checkedReadCells sheet kind row (col + 1) rest (← checkedReadCell kind number text columns)
    else throw (.failed (.layout sheet (.columnPastEnd row col)))

/-- Takes a sample row in. -/
def checkedTakeSamples (number : Nat) (w : Worksheet) (columns : List NumberedColumn) :
    Checked (Worksheet × List NumberedColumn) := do
  let row ← minus number 1
  let places ← columns.mapM fun c => do return (⟨row, ← minus c.number 1⟩ : Coord)
  return (places.foldl Worksheet.dropFormula w, columns.zipWith (fun c place =>
    { c with column := { c.column with samples := c.column.samples ++ [w.sample place] } }) places)

/-- The number of the row below a header row. -/
def checkedFirstRow (kind : DirectiveKind) (number : Nat) : Option Nat → Checked (Option Nat)
  | none => if kind = .header then do return some (← plus number 1) else pure none
  | some first => pure (some first)

/-- Takes in what a directive row says. -/
def checkedReadDirective (kind : DirectiveKind) (number row : Nat) (cells : List String)
    (w : Worksheet) (columns : List NumberedColumn) : Checked (Worksheet × List NumberedColumn) :=
  if kind = .data then checkedTakeSamples number w columns
  else do return (w, ← checkedReadCells w.name kind row 1 (cells.drop 1) columns)

/-- Reads one row of the template. -/
def checkedReadRow (labels : DirectiveLabels) (row : Nat) (cells : List String)
    (state : Worksheet × NumberedPlan) : Checked (Worksheet × NumberedPlan) :=
  let (w, plan) := state
  match cells.head?.bind labels.directive? with
  | none => pure state
  | some kind => do
    let number ← plus row 1
    if row ≥ maxRows then throw (.failed (.layout w.name (.rowPastEnd row)))
    else
      let firstRow ← checkedFirstRow kind number plan.firstRow
      let directives := plan.directives ++ [⟨number, kind, row, cells⟩]
      let (w, columns) ← checkedReadDirective kind number row cells w plan.columns
      return (w, { columns, directives, firstRow })

/-- Reads the rows of a template from a row on. -/
def checkedReadRows (labels : DirectiveLabels) :
    Nat → List (List String) → Worksheet × NumberedPlan → Checked (Worksheet × NumberedPlan)
  | _, [], state => pure state
  | row, cells :: rest, state => do
    let state ← checkedReadRow labels row cells state
    checkedReadRows labels (row + 1) rest state

/-- Reads the plan of a table from the texts of a sheet. -/
def checkedCompileTable (labels : DirectiveLabels) (w : Worksheet) (rows : List (List String)) :
    Checked (Worksheet × NumberedPlan) :=
  checkedReadRows labels 0 rows (w, {})

section Reading

variable {kind : DirectiveKind} {row col : Nat} {w : Worksheet} {columns : List TableColumn}

theorem checkedOpenColumn_eq (col : Nat) (header : String) :
    checkedOpenColumn (col + 1) header =
      pure (TableColumn.numbered { templateCol := col, header }) := by
  simp only [checkedOpenColumn, minus_add_right, checkedColumnName_eq, pure_bind]
  rfl

theorem any_number_eq (columns : List TableColumn) (col : Nat) :
    (columns.map TableColumn.numbered).any (·.number == col + 1) =
      columns.any (·.templateCol == col) := by
  rw [List.any_map]
  refine congrArg columns.any (funext fun c => ?_)
  exact Bool.eq_iff_iff.2 (by simp [TableColumn.numbered])

theorem checkedReadCell_eq (kind : DirectiveKind) (col : Nat) (text : String)
    (columns : List TableColumn) :
    checkedReadCell kind (col + 1) text (columns.map TableColumn.numbered) =
      pure ((readCell kind col text columns).map TableColumn.numbered) := by
  have htell (c : TableColumn) :
      (if c.numbered.number = col + 1 then
        { c.numbered with column := c.numbered.column.tell kind text } else c.numbered) =
      (if c.templateCol = col then c.tell kind text else c).numbered := by
    by_cases hcol : c.templateCol = col
    · have hnumber : c.numbered.number = col + 1 := congrArg (· + 1) hcol
      rw [if_pos hcol, if_pos hnumber]
      simp only [TableColumn.numbered, templateCol_tell]
    · rw [if_neg hcol, if_neg (mt Nat.succ.inj hcol : ¬c.numbered.number = col + 1)]
  rw [checkedReadCell, any_number_eq, readCell, checkedOpenColumn_eq, pure_bind, List.map_map]
  split
  · rw [List.map_map]
    exact congrArg pure (List.map_congr_left fun c _ => htell c)
  · split
    · rw [List.map_append]
      rfl
    · rfl

theorem checkedReadCells_eq (sheet : String) {cells : List String}
    (hcells : col + cells.length ≤ maxColumns) :
    checkedReadCells sheet kind row col cells (columns.map TableColumn.numbered) =
      Checked.of
        ((readCells sheet kind row col cells columns).map (List.map TableColumn.numbered)) := by
  induction cells generalizing col columns with
  | nil => rfl
  | cons text cells ih =>
    rw [List.length_cons] at hcells
    have hlimit : maxColumns ≤ maxRows := by decide
    rw [checkedReadCells, plus_eq_of_le_maxRows (by omega) (by decide), pure_bind,
      if_pos (by omega), checkedReadCell_eq, pure_bind, ih (by omega), readCells, if_pos (by omega)]

theorem checkedTakeSamples_eq (row : Nat) (w : Worksheet) (columns : List TableColumn) :
    checkedTakeSamples (row + 1) w (columns.map TableColumn.numbered) =
      pure (Prod.map id (List.map TableColumn.numbered) (takeSamples row w columns)) := by
  rw [checkedTakeSamples, minus_add_right, pure_bind,
    mapM_eq_pure (g := fun c => (⟨row, c.column.templateCol⟩ : Coord)), pure_bind]
  · rw [List.map_map, List.foldl_map, List.zipWith_map, List.zipWith_self]
    simp only [takeSamples, Prod.map, List.map_map]
    rfl
  · rintro _ hmem
    obtain ⟨c, -, rfl⟩ := List.mem_map.1 hmem
    dsimp only [TableColumn.numbered]
    rw [minus_add_right, pure_bind]

theorem checkedFirstRow_eq (hrow : row < maxRows) (kind : DirectiveKind) (first : Option Nat) :
    checkedFirstRow kind (row + 1) (first.map (· + 1)) =
      pure ((if kind = .header then first.or (some (row + 1)) else first).map (· + 1)) := by
  cases first with
  | none =>
    rw [Option.map_none, checkedFirstRow, plus_eq_of_le_maxRows (by omega) (by decide), pure_bind]
    split <;> rfl
  | some first => split <;> rfl

theorem checkedReadDirective_eq {cells : List String} (hcells : cells.length ≤ maxColumns) :
    checkedReadDirective kind (row + 1) row cells w (columns.map TableColumn.numbered) =
      Checked.of ((if kind = .data then .ok (takeSamples row w columns)
        else (readCells w.name kind row 1 (cells.drop 1) columns).map (w, ·)).map
          (Prod.map id (List.map TableColumn.numbered))) := by
  have hfit : 1 + (cells.drop 1).length ≤ maxColumns := by
    have : 1 ≤ maxColumns := by decide
    rw [List.length_drop]
    omega
  unfold checkedReadDirective
  split
  · exact checkedTakeSamples_eq row w columns
  · rw [checkedReadCells_eq w.name hfit]
    cases readCells w.name kind row 1 (cells.drop 1) columns <;> rfl

/-- A row of a template that fits its sheet is read without stopping. -/
theorem checkedReadRow_eq (labels : DirectiveLabels) {cells : List String} (hrow : row < maxRows)
    (hcells : cells.length ≤ maxColumns) (w : Worksheet) (plan : TablePlan) :
    checkedReadRow labels row cells (w, plan.numbered) =
      Checked.of ((readRow labels row cells (w, plan)).map numberedState) := by
  rw [checkedReadRow, readRow]
  cases cells.head?.bind labels.directive? with
  | none => rfl
  | some kind =>
    dsimp only
    rw [plus_eq_of_le_maxRows (by omega) (by decide), pure_bind, if_neg (Nat.not_le.2 hrow),
      if_neg (Nat.not_le.2 hrow), TablePlan.numbered, checkedFirstRow_eq hrow, pure_bind,
      checkedReadDirective_eq hcells]
    have hdirectives : plan.directives.map DirectiveRow.numbered ++ [⟨row + 1, kind, row, cells⟩] =
        (plan.directives ++ [DirectiveRow.mk kind row cells]).map DirectiveRow.numbered := by
      rw [List.map_append]
      rfl
    rw [hdirectives]
    cases kind with
    | data => rfl
    | _ =>
      rw [if_neg DirectiveKind.noConfusion]
      dsimp only
      cases readCells w.name _ row 1 (cells.drop 1) plan.columns <;> rfl

theorem checkedReadRows_eq (labels : DirectiveLabels) {rows : List (List String)}
    (hrows : row + rows.length ≤ maxRows) (hcells : ∀ cells ∈ rows, cells.length ≤ maxColumns)
    (w : Worksheet) (plan : TablePlan) :
    checkedReadRows labels row rows (w, plan.numbered) =
      Checked.of ((readRows labels row rows (w, plan)).map numberedState) := by
  induction rows generalizing row w plan with
  | nil => rfl
  | cons cells rows ih =>
    rw [List.length_cons] at hrows
    obtain ⟨hfits, hcells⟩ := List.forall_mem_cons.1 hcells
    rw [checkedReadRows, checkedReadRow_eq labels (by omega) hfits, readRows]
    cases readRow labels row cells (w, plan) with
    | error e => rfl
    | ok between => exact ih (by omega) hcells between.1 between.2

/-- A template whose texts fit its sheet is read without stopping. -/
theorem checkedCompileTable_eq (labels : DirectiveLabels) (w : Worksheet) {rows : List (List String)}
    (h : TextsFit rows) : checkedCompileTable labels w rows =
      Checked.of ((compileTable labels w rows).map numberedState) :=
  checkedReadRows_eq labels (by rw [Nat.zero_add]; exact h.height) h.width w {}

/-- Rows and cells of a plan are rows and cells of a sheet; its columns stand behind the first one,
and its records begin below a header. -/
structure TablePlan.WithinLimits (plan : TablePlan) : Prop where
  columns : ∀ c ∈ plan.columns, 1 ≤ c.templateCol
  rows : ∀ d ∈ plan.directives, d.row < maxRows
  cells : ∀ d ∈ plan.directives, d.cells.length ≤ maxColumns
  firstRow : ∀ first ∈ plan.firstRow, 0 < first ∧ first ≤ maxRows

/-- A plan keeps within the limits of the sheet from whose texts it was read. -/
theorem TextsFit.withinLimits {labels : DirectiveLabels} {rows : List (List String)}
    (h : TextsFit rows) {w' : Worksheet} {plan : TablePlan}
    (hread : compileTable labels w rows = .ok (w', plan)) : plan.WithinLimits := by
  have hplan := planRead_of_compileTable hread
  have hheight := h.height
  have hrows : ∀ d ∈ plan.directives, d.row < maxRows := fun d hd =>
    (hplan.below d hd).trans_le hheight
  refine ⟨hplan.columns.pos, hrows, fun d hd => ?_, fun first hfirst => ?_⟩
  · rw [(schemaRead_of_compileTable hread).1, directiveRows, List.mem_filterMap] at hd
    obtain ⟨⟨cells, row⟩, hmem, hdirective⟩ := hd
    obtain ⟨kind, -, rfl⟩ := Option.map_eq_some_iff.1 hdirective
    exact h.width cells (List.fst_mem_of_mem_zipIdx hmem)
  · rw [Option.mem_def, hplan.firstRow] at hfirst
    obtain ⟨d, hd, rfl⟩ := Option.map_eq_some_iff.1 hfirst
    exact ⟨Nat.succ_pos d.row, hrows d (List.mem_of_find?_eq_some hd)⟩

/-- Reading a plan leaves the sheet within its limits. -/
theorem Worksheet.WithinLimits.compileTable (h : w.WithinLimits) {labels : DirectiveLabels}
    {rows : List (List String)} {w' : Worksheet} {plan : TablePlan}
    (hread : compileTable labels w rows = .ok (w', plan)) : w'.WithinLimits :=
  (schemaRead_of_compileTable hread).2.sheet ▸ h.withoutFormulas _

end Reading

/-! ### Taking the scaffolding out -/

/-- Deletes directive rows one after another. -/
def checkedRemoveRows (directives : List NumberedRow) (w : Worksheet) : Checked Worksheet :=
  directives.foldlM (fun w d => do (Removal.row (← minus d.number 1)).checkedSheet w) w

/-- Deletes the directive rows that do not stay, from the bottom up, and the first column. -/
def NumberedPlan.checkedStrip (plan : NumberedPlan) (w : Worksheet) : Checked Worksheet := do
  let w ← checkedRemoveRows (plan.directives.drop TablePlan.keptRows).reverse w
  (Removal.column 0).checkedSheet w

section Stripping

variable {w : Worksheet}

theorem Worksheet.WithinLimits.removeRows (h : w.WithinLimits) (directives : List DirectiveRow) :
    (directives.foldl (fun w d => w.removeRow d.row) w).WithinLimits := by
  induction directives generalizing w with
  | nil => exact h
  | cons d directives ih => exact ih (h.removal (.row d.row))

theorem Worksheet.WithinLimits.checkedRemoveRows_eq (h : w.WithinLimits)
    {directives : List DirectiveRow} (hrows : ∀ d ∈ directives, d.row < maxRows) :
    checkedRemoveRows (directives.map DirectiveRow.numbered) w =
      pure (directives.foldl (fun w d => w.removeRow d.row) w) := by
  induction directives generalizing w with
  | nil => rfl
  | cons d directives ih =>
    obtain ⟨hrow, hrows⟩ := List.forall_mem_cons.1 hrows
    have hremove : (Removal.row d.row).checkedSheet w = pure (w.removeRow d.row) :=
      (Removal.row d.row).checkedSheet_eq_of_withinLimits h hrow
    have hrest := ih (h.removal (.row d.row)) hrows
    rw [checkedRemoveRows, List.map_cons, List.foldlM_cons]
    dsimp only [DirectiveRow.numbered]
    rw [minus_add_right, pure_bind, hremove, pure_bind]
    exact hrest

/-- The scaffolding of a plan is taken out of a sheet within its limits without stopping. -/
theorem TablePlan.WithinLimits.checkedStrip_eq {plan : TablePlan} (hplan : plan.WithinLimits)
    (h : w.WithinLimits) :
    plan.numbered.checkedStrip w = pure (plan.strip w) := by
  have hremoved := h.removeRows (plan.directives.drop TablePlan.keptRows).reverse
  rw [NumberedPlan.checkedStrip, TablePlan.numbered, ← List.map_drop, ← List.map_reverse,
    h.checkedRemoveRows_eq, pure_bind]
  · exact (Removal.column 0).checkedSheet_eq_of_withinLimits hremoved (Nat.zero_le _)
  · exact fun d hd => hplan.rows d (List.mem_of_mem_drop (List.mem_reverse.1 hd))

/-- What is left keeps within its limits. -/
theorem Worksheet.WithinLimits.strip (h : w.WithinLimits) (plan : TablePlan) :
    (plan.strip w).WithinLimits :=
  (h.removeRows _).removal (.column 0)

end Stripping

end SheetPress
