import Mathlib
import SheetPress.Proofs.Checked.Formulas
import SheetPress.Proofs.Sheet.Layout
import SheetPress.Proofs.Template.Schema

/-!
# Sheets in checked arithmetic

Cells, heights, regions and references are moved by adding to their rows or by taking one from their
rows or columns.  No such sum passes the greatest index if the rows that move still fit behind those
that are inserted, and no difference is negative.  On a sheet that keeps within its limits this is so,
and the deletion of a line leaves it within them.

* `Worksheet.checkedInsertRows_eq`, `Removal.checkedSheet_eq` — the edits of a sheet.
* `Worksheet.WithinLimits.removal` — what a deletion leaves.
-/

namespace SheetPress

/-! ## Limits -/

/-- Stored cells, row heights, regions and the references of formulas lie on a sheet. -/
structure Worksheet.WithinLimits (w : Worksheet) : Prop where
  cells : ∀ place cell, w.cell? place = some cell → place.row < maxRows ∧ place.col < maxColumns
  formulas : ∀ place formula, w.formula? place = some formula → ReferencesOnSheet formula
  heights : ∀ row height, w.rowHeights[row]? = some height → row < maxRows
  merged : ∀ region ∈ w.merged, region.WithinLimits
  filter : ∀ region ∈ w.filter, region.WithinLimits

/-! ## Entries that move -/

/-- Entries with the keys that `f` gives for theirs; those without one are dropped. -/
def checkedMoved {α β : Type} (f : α → Checked (Option α)) (entries : List (α × β)) :
    Checked (List (α × β)) := do
  let moved ← entries.mapM fun (key, value) => do
    return (← f key).map fun target => (target, value)
  return moved.filterMap id

theorem checkedMoved_eq {α β : Type} {f : α → Checked (Option α)} {g : α → Option α}
    {entries : List (α × β)} (h : ∀ entry ∈ entries, f entry.1 = pure (g entry.1)) :
    checkedMoved f entries =
      pure (entries.filterMap fun (key, value) => (g key).map fun target => (target, value)) := by
  rw [checkedMoved, mapM_eq_pure (g := fun (key, value) => (g key).map fun target => (target, value)),
    pure_bind, List.filterMap_map]
  · rfl
  · rintro ⟨key, value⟩ hmem
    have hkey : f key = pure (g key) := h _ hmem
    dsimp only
    rw [hkey, pure_bind]

/-- Moves every cell to the place that `f` gives for its own. -/
def Grid.checkedRekey (g : Grid) (f : Coord → Checked (Option Coord)) : Checked Grid := do
  let moved ← checkedMoved f g.toList
  return tighten { cells := .ofList moved }

theorem Grid.checkedRekey_eq {g : Grid} {f : Coord → Checked (Option Coord)}
    {m : Coord → Option Coord} (h : ∀ place cell, g.get? place = some cell →
      f place = pure (m place)) : g.checkedRekey f = pure (g.rekey m) := by
  rw [checkedRekey, checkedMoved_eq fun entry hmem => h entry.1 entry.2 (mem_toList.1 hmem), pure_bind,
    Std.ExtTreeMap.ofList_eq_foldl]
  rfl

/-- Sizes with each line moved by `f`. -/
def LineSizes.checkedRekey (sizes : LineSizes) (f : Nat → Checked (Option Nat)) :
    Checked LineSizes := do
  let moved ← checkedMoved f sizes.toList
  return .ofList moved

theorem LineSizes.checkedRekey_eq {sizes : LineSizes} {f : Nat → Checked (Option Nat)}
    {m : Nat → Option Nat} (h : ∀ line size, sizes[line]? = some size → f line = pure (m line)) :
    sizes.checkedRekey f = pure (sizes.rekey m) := by
  rw [checkedRekey, checkedMoved_eq fun entry hmem =>
    h entry.1 entry.2 (Std.ExtTreeMap.mem_toList_iff_getElem?_eq_some.1 hmem), pure_bind,
    Std.ExtTreeMap.ofList_eq_foldl]
  rfl

/-- Edits the formulas of all stored cells in their places. -/
def Grid.checkedMapFormulas (g : Grid) (f : String → Checked String) : Checked Grid := do
  let cells ← g.toList.mapM fun (place, cell) => do
    return (place, { cell with formula := ← cell.formula.mapM f })
  return { g with cells := .ofList cells }

theorem Grid.ofList_toList (g : Grid) : Std.ExtTreeMap.ofList g.toList = g.cells := by
  refine Std.ExtTreeMap.ext_getElem? fun {place} => Option.ext fun cell => ?_
  have hdistinct : g.toList.Pairwise fun a b => ¬ compare a.1 b.1 = .eq :=
    g.sorted_toList.imp fun hlt => by simp [hlt]
  exact (getElem?_ofList_eq_some_iff hdistinct).trans mem_toList

theorem Grid.checkedMapFormulas_eq {g : Grid} {f : String → Checked String} {m : String → String}
    (h : ∀ place cell formula, g.get? place = some cell → cell.formula = some formula →
      f formula = pure (m formula)) :
    g.checkedMapFormulas f = pure (g.mapCells (·.mapFormula m)) := by
  rw [checkedMapFormulas, mapM_eq_pure (g := fun (place, cell) => (place, cell.mapFormula m)),
    pure_bind]
  · rw [← toList_mapCells, ofList_toList]
    rfl
  · rintro ⟨place, cell⟩ hmem
    have hformula : cell.formula.mapM f = pure (cell.formula.map m) :=
      mapM_option_eq_pure fun formula => h place cell formula (mem_toList.1 hmem)
    dsimp only
    rw [hformula, pure_bind]
    rfl

/-! ## Inserting rows -/

/-- Where a line is after `count` lines were inserted in front of line `start`. -/
def checkedMovedByInsert (start count line : Nat) : Checked Nat :=
  if line ≥ start then plus line count else pure line

/-- A region after rows were inserted. -/
def Region.checkedInsertRows (start count : Nat) (r : Region) : Checked Region :=
  if r.startRow ≥ start then do
    return { r with startRow := ← plus r.startRow count, endRow := ← plus r.endRow count }
  else if r.endRow ≥ start then do return { r with endRow := ← plus r.endRow count }
  else pure r

/-- Inserts `count` empty rows in front of row `start`. -/
def Worksheet.checkedInsertRows (w : Worksheet) (start count : Nat) : Checked Worksheet :=
  if count = 0 then pure w
  else do
    let grid ← w.grid.checkedRekey fun c => do
      return some { c with row := ← checkedMovedByInsert start count c.row }
    let rowHeights ← w.rowHeights.checkedRekey fun row => do
      return some (← checkedMovedByInsert start count row)
    let merged ← w.merged.mapM (·.checkedInsertRows start count)
    let filter ← w.filter.mapM (·.checkedInsertRows start count)
    let grid ← grid.checkedMapFormulas (checkedShiftRowsForInsert · start count)
    return { w with grid, rowHeights, merged, filter }

/-- `count` rows fit into a sheet in front of row `start`: the rows that move, those of cells, heights
and regions, are still machine numbers behind them, and so is row `start` as references count. -/
structure Worksheet.RowsFit (start count : Nat) (w : Worksheet) : Prop where
  cells : ∀ place cell, w.cell? place = some cell → start ≤ place.row →
    place.row + count < indexLimit
  heights : ∀ row height, w.rowHeights[row]? = some height → start ≤ row → row + count < indexLimit
  regions : ∀ region ∈ w.merged ++ w.filter.toList, ∀ row ∈ [region.startRow, region.endRow],
    start ≤ row → row + count < indexLimit
  formulas : ∀ place formula, w.formula? place = some formula → start + 1 < indexLimit

section Insertion

variable {start count : Nat}

theorem checkedMovedByInsert_eq {line : Nat} (h : start ≤ line → line + count < indexLimit) :
    checkedMovedByInsert start count line = pure (movedByInsert start count line) := by
  unfold checkedMovedByInsert movedByInsert
  split
  · next hmoves => exact plus_eq (h hmoves)
  · rfl

theorem Region.checkedInsertRows_eq {r : Region}
    (h : ∀ row ∈ [r.startRow, r.endRow], start ≤ row → row + count < indexLimit) :
    r.checkedInsertRows start count = pure (r.insertRows start count) := by
  have hfirst := h r.startRow (List.mem_cons_self ..)
  have hlast := h r.endRow (List.mem_cons_of_mem _ (List.mem_singleton_self _))
  unfold Region.checkedInsertRows Region.insertRows
  split
  · next hmoves =>
    rw [plus_eq (hfirst hmoves), pure_bind, plus_eq (by omega), pure_bind]
  · split
    · next hgrows => rw [plus_eq (hlast hgrows), pure_bind]
    · rfl

/-- Rows that fit are inserted without stopping, if the references of all formulas fit as well. -/
theorem Worksheet.checkedInsertRows_eq {w : Worksheet} (h : w.RowsFit start count)
    (hformulas : ∀ place formula, w.formula? place = some formula → ReferencesFit count formula) :
    w.checkedInsertRows start count = pure (w.insertRows start count) := by
  unfold Worksheet.checkedInsertRows Worksheet.insertRows
  split
  · rfl
  · have hmerged : ∀ region ∈ w.merged,
        region.checkedInsertRows start count = pure (region.insertRows start count) :=
      fun region hregion =>
        Region.checkedInsertRows_eq (h.regions region (List.mem_append_left _ hregion))
    have hfilter : w.filter.mapM (·.checkedInsertRows start count) =
        pure (w.filter.map (·.insertRows start count)) :=
      mapM_option_eq_pure fun region hregion => Region.checkedInsertRows_eq
        (h.regions region (List.mem_append_right _ (Option.mem_toList.2 hregion)))
    rw [Grid.checkedRekey_eq (m := fun c => some (c.insertRows start count)), pure_bind,
      LineSizes.checkedRekey_eq (m := fun row => some (movedByInsert start count row)), pure_bind,
      mapM_eq_pure hmerged, pure_bind, hfilter, pure_bind,
      Grid.checkedMapFormulas_eq (m := (shiftRowsForInsert · start count)), pure_bind]
    · rfl
    · intro target cell formula hcell hformula
      obtain ⟨place, hplace, -⟩ := (Grid.get?_rekey keepsOrder_insertRows.separates).1 hcell
      have hstored : w.formula? place = some formula := by
        rw [Worksheet.formula?, Worksheet.cell?, hplace]
        exact hformula
      exact checkedShiftRowsForInsert_eq (hformulas place formula hstored)
        (h.formulas place formula hstored)
    · intro line size hsize
      rw [checkedMovedByInsert_eq (h.heights line size hsize), pure_bind]
    · intro place cell hcell
      rw [checkedMovedByInsert_eq (h.cells place cell hcell), pure_bind]
      rfl

/-- As many rows as a sheet has fit into one that keeps within its limits. -/
theorem Worksheet.WithinLimits.rowsFit {w : Worksheet} (h : w.WithinLimits) (hstart : start ≤ maxRows)
    (hcount : count ≤ maxRows) : w.RowsFit start count := by
  have hlimit : 2 * maxRows + 1 < indexLimit := by decide
  refine ⟨fun place cell hcell _ => ?_, fun row height hheight _ => ?_,
    fun region hregion row hrow _ => ?_, fun _ _ _ => by omega⟩
  · have := (h.cells place cell hcell).1
    omega
  · have := h.heights row height hheight
    omega
  · have hregion : region.WithinLimits := by
      rcases List.mem_append.1 hregion with hregion | hregion
      · exact h.merged region hregion
      · exact h.filter region (Option.mem_toList.1 hregion)
    have hrows := hregion.rows
    have hend := hregion.endRow
    rcases List.mem_cons.1 hrow with rfl | hrow
    · omega
    · rw [List.mem_singleton.1 hrow]
      omega

/-- Rows are inserted into a sheet within its limits without stopping. -/
theorem Worksheet.WithinLimits.checkedInsertRows_eq {w : Worksheet} (h : w.WithinLimits)
    (hstart : start ≤ maxRows) (hcount : count ≤ maxRows) :
    w.checkedInsertRows start count = pure (w.insertRows start count) :=
  Worksheet.checkedInsertRows_eq (h.rowsFit hstart hcount) fun place formula hformula =>
    (h.formulas place formula hformula).fit hcount

end Insertion

/-! ## Deleting a row or a column -/

/-- Where a line is after another one was deleted; the deleted line is nowhere. -/
def checkedMovedByRemove (removed line : Nat) : Checked (Option Nat) :=
  match compare line removed with
  | .lt => pure (some line)
  | .eq => pure none
  | .gt => do return some (← minus line 1)

/-- A span of lines after another line was deleted; a span of that line only is nothing. -/
def checkedShrinkSpan (first last removed : Nat) : Checked (Option (Nat × Nat)) :=
  if removed > last then pure (some (first, last))
  else if removed < first then do return some (← minus first 1, ← minus last 1)
  else if first = last then pure none
  else do return some (first, ← minus last 1)

theorem checkedMovedByRemove_eq (removed line : Nat) :
    checkedMovedByRemove removed line = pure (movedByRemove removed line) := by
  unfold checkedMovedByRemove movedByRemove
  cases hline : compare line removed with
  | lt => rfl
  | eq => rfl
  | gt =>
    have hlt := Nat.compare_eq_gt.1 hline
    dsimp only
    rw [minus_eq (by omega), pure_bind]

theorem checkedShrinkSpan_eq {first last : Nat} (h : first ≤ last) (removed : Nat) :
    checkedShrinkSpan first last removed = pure (shrinkSpan first last removed) := by
  unfold checkedShrinkSpan shrinkSpan
  split_ifs with hbehind hfront hall
  · rfl
  · rw [minus_eq (by omega), pure_bind, minus_eq (by omega), pure_bind]
  · rfl
  · rw [minus_eq (by omega), pure_bind]

/-- A span that shrinks ends no later than it did. -/
theorem le_of_shrinkSpan {first last first' last' removed : Nat}
    (h : shrinkSpan first last removed = some (first', last')) : last' ≤ last := by
  unfold shrinkSpan at h
  split_ifs at h <;> obtain ⟨rfl, rfl⟩ := h <;> omega

namespace Removal

/-- Where a place is afterwards. The places of the line are nowhere. -/
def checkedPlace? : Removal → Coord → Checked (Option Coord)
  | row removed, c => do
    return (← checkedMovedByRemove removed c.row).map fun row => { c with row }
  | column removed, c => do
    return (← checkedMovedByRemove removed c.col).map fun col => { c with col }

/-- What becomes of a region. -/
def checkedRegion? : Removal → Region → Checked (Option Region)
  | row removed, r => do
    return (← checkedShrinkSpan r.startRow r.endRow removed).map fun (first, last) =>
      { r with startRow := first, endRow := last }
  | column removed, r => do
    return (← checkedShrinkSpan r.startCol r.endCol removed).map fun (first, last) =>
      { r with startCol := first, endCol := last }

/-- The heights of the rows afterwards. -/
def checkedRowHeights : Removal → LineSizes → Checked LineSizes
  | row removed, heights => heights.checkedRekey (checkedMovedByRemove removed)
  | column _, heights => pure heights

/-- The widths of the columns afterwards. -/
def checkedColumnWidths : Removal → LineSizes → Checked LineSizes
  | row _, widths => pure widths
  | column removed, widths => widths.checkedRekey (checkedMovedByRemove removed)

/-- A sheet without the line. -/
def checkedSheet (k : Removal) (w : Worksheet) : Checked Worksheet := do
  let grid ← w.grid.checkedRekey k.checkedPlace?
  let rowHeights ← k.checkedRowHeights w.rowHeights
  let columnWidths ← k.checkedColumnWidths w.columnWidths
  let merged ← w.merged.mapM k.checkedRegion?
  let filter ← w.filter.mapM k.checkedRegion?
  let grid ← grid.checkedMapFormulas k.checkedFormula
  return { w with
    grid, rowHeights, columnWidths
    merged := (merged.filterMap id).filter (! ·.isSingleCell)
    filter := filter.join }

variable (k : Removal)

theorem checkedPlace?_eq (place : Coord) : k.checkedPlace? place = pure (k.place? place) := by
  cases k <;> simp only [checkedPlace?, checkedMovedByRemove_eq, pure_bind] <;> rfl

/-- The lines of a region, rows or columns as the deleted line is one, are given in order. -/
def InOrder : Removal → Region → Prop
  | row _, r => r.startRow ≤ r.endRow
  | column _, r => r.startCol ≤ r.endCol

theorem inOrder_of_isOrdered {r : Region} (h : r.IsOrdered) : k.InOrder r := by
  cases k with
  | row removed => exact h.rows
  | column removed => exact h.cols

theorem checkedRegion?_eq {r : Region} (h : k.InOrder r) :
    k.checkedRegion? r = pure ((LineEdit.removal k).region? r) := by
  cases k with
  | row removed =>
    rw [checkedRegion?, checkedShrinkSpan_eq h, pure_bind, LineEdit.region?_removeRow]
    rfl
  | column removed =>
    rw [checkedRegion?, checkedShrinkSpan_eq h, pure_bind, LineEdit.region?_removeCol]
    rfl

theorem checkedRowHeights_eq (w : Worksheet) :
    k.checkedRowHeights w.rowHeights = pure (k.sheet w).rowHeights := by
  cases k with
  | row removed => exact LineSizes.checkedRekey_eq fun line _ _ => checkedMovedByRemove_eq removed line
  | column removed => rfl

theorem checkedColumnWidths_eq (w : Worksheet) :
    k.checkedColumnWidths w.columnWidths = pure (k.sheet w).columnWidths := by
  cases k with
  | row removed => rfl
  | column removed =>
    exact LineSizes.checkedRekey_eq fun line _ _ => checkedMovedByRemove_eq removed line

theorem merged_sheet (w : Worksheet) : (k.sheet w).merged =
    (w.merged.filterMap (LineEdit.removal k).region?).filter (! ·.isSingleCell) := by
  cases k with
  | row removed =>
    rw [LineEdit.region?_removeRow]
    rfl
  | column removed =>
    rw [LineEdit.region?_removeCol]
    rfl

/-- A line is deleted from a sheet without stopping if regions are given in order, and if its number
is a machine number where there are formulas to edit. -/
theorem checkedSheet_eq {w : Worksheet}
    (hregions : ∀ region ∈ w.merged ++ w.filter.toList, k.InOrder region)
    (hformulas : ∀ place formula, w.formula? place = some formula → k.removed < indexLimit) :
    k.checkedSheet w = pure (k.sheet w) := by
  have hfilter : w.filter.mapM k.checkedRegion? =
      pure (w.filter.map (LineEdit.removal k).region?) :=
    mapM_option_eq_pure fun region hregion => k.checkedRegion?_eq
      (hregions region (List.mem_append_right _ (Option.mem_toList.2 hregion)))
  have hjoin : (w.filter.map (LineEdit.removal k).region?).join = (k.sheet w).filter := by
    refine Eq.trans ?_ ((LineEdit.removal k).filter_sheet w).symm
    cases w.filter <;> rfl
  have hgrid : (w.grid.rekey k.place?).mapCells (·.mapFormula k.formula) = (k.sheet w).grid :=
    (k.grid_sheet w).symm
  have hmerged := (k.merged_sheet w).symm
  have hedits : ∀ target cell formula, (w.grid.rekey k.place?).get? target = some cell →
      cell.formula = some formula → k.checkedFormula formula = pure (k.formula formula) := by
    intro target cell formula hcell hformula
    obtain ⟨place, hplace, -⟩ := (Grid.get?_rekey k.keepsOrder.separates).1 hcell
    refine k.checkedFormula_eq (hformulas place formula ?_) formula
    rw [Worksheet.formula?, Worksheet.cell?, hplace]
    exact hformula
  rw [checkedSheet, Grid.checkedRekey_eq fun place _ _ => k.checkedPlace?_eq place, pure_bind,
    checkedRowHeights_eq, pure_bind, checkedColumnWidths_eq, pure_bind,
    mapM_eq_pure fun region hmem => k.checkedRegion?_eq (hregions region (List.mem_append_left _ hmem)),
    pure_bind, hfilter, pure_bind, Grid.checkedMapFormulas_eq hedits, pure_bind, List.filterMap_map,
    Function.id_comp, hmerged, hjoin, hgrid]
  cases k <;> rfl

/-- A line is deleted from a sheet within its limits without stopping. -/
theorem checkedSheet_eq_of_withinLimits {w : Worksheet} (h : w.WithinLimits)
    (hremoved : k.removed ≤ maxRows) : k.checkedSheet w = pure (k.sheet w) := by
  have hlimit : maxRows < indexLimit := by decide
  refine k.checkedSheet_eq (fun region hregion => k.inOrder_of_isOrdered ?_) fun _ _ _ => by omega
  rcases List.mem_append.1 hregion with hregion | hregion
  · exact (h.merged region hregion).toIsOrdered
  · exact (h.filter region (Option.mem_toList.1 hregion)).toIsOrdered

end Removal

/-! ### What is left -/

theorem Region.WithinLimits.removal {r r' : Region} (h : r.WithinLimits) {k : Removal}
    (hregion : (LineEdit.removal k).region? r = some r') : r'.WithinLimits := by
  obtain ⟨hrows, hcols⟩ := (LineEdit.removal k).region?_eq_some_iff.1 hregion
  have hle : r'.endRow ≤ r.endRow ∧ r'.endCol ≤ r.endCol := by
    cases k with
    | row removed => exact ⟨le_of_shrinkSpan hrows, (Prod.mk.inj (Option.some.inj hcols)).2.ge⟩
    | column removed => exact ⟨(Prod.mk.inj (Option.some.inj hrows)).2.ge, le_of_shrinkSpan hcols⟩
  exact ⟨LineEdit.isOrdered_region? hregion h.toIsOrdered, hle.1.trans_lt h.endRow,
    hle.2.trans_lt h.endCol⟩

theorem le_of_movedByRemove {removed line line' : Nat} (h : movedByRemove removed line = some line') :
    line' ≤ line := by
  rw [movedByRemove_eq] at h
  split_ifs at h <;> cases h <;> omega

section Left

variable {k : Removal} {w : Worksheet}

theorem Removal.le_of_row? {line line' : Nat} (h : (LineEdit.removal k).row? line = some line') :
    line' ≤ line := by
  cases k with
  | row removed => exact le_of_movedByRemove h
  | column removed => exact (Option.some.inj h).ge

theorem Removal.le_of_col? {line line' : Nat} (h : (LineEdit.removal k).col? line = some line') :
    line' ≤ line := by
  cases k with
  | row removed => exact (Option.some.inj h).ge
  | column removed => exact le_of_movedByRemove h

/-- A cell that is stored afterwards was stored at the place that moved there. -/
theorem Removal.exists_of_cell?_sheet {target : Coord} {cell : Cell}
    (h : (k.sheet w).cell? target = some cell) :
    ∃ place old, w.cell? place = some old ∧ k.place? place = some target ∧ cell = k.cell old := by
  have hmem := Grid.mem_toList.2 h
  rw [k.toList_sheet, List.mem_filterMap] at hmem
  obtain ⟨⟨place, old⟩, hold, hplaced⟩ := hmem
  obtain ⟨target', hplace, heq⟩ := Option.map_eq_some_iff.1 hplaced
  obtain ⟨rfl, rfl⟩ := Prod.mk.inj heq
  exact ⟨place, old, Grid.mem_toList.1 hold, hplace, rfl⟩

/-- The deletion of a line leaves a sheet within its limits. -/
theorem Worksheet.WithinLimits.removal (h : w.WithinLimits) (k : Removal) :
    (k.sheet w).WithinLimits where
  cells := by
    intro target cell hcell
    obtain ⟨place, old, hold, hplace, -⟩ := Removal.exists_of_cell?_sheet hcell
    obtain ⟨hrow, hcol⟩ := (LineEdit.removal k).place?_eq_some_iff.1 hplace
    obtain ⟨hrowLimit, hcolLimit⟩ := h.cells place old hold
    exact ⟨(Removal.le_of_row? hrow).trans_lt hrowLimit, (Removal.le_of_col? hcol).trans_lt hcolLimit⟩
  formulas := by
    intro target formula hformula
    obtain ⟨cell, hcell, hformula⟩ := Option.bind_eq_some_iff.1 hformula
    obtain ⟨place, old, hold, -, rfl⟩ := Removal.exists_of_cell?_sheet hcell
    obtain ⟨oldFormula, holdFormula, rfl⟩ := Option.map_eq_some_iff.1 hformula
    refine (h.formulas place oldFormula ?_).removal k
    rw [Worksheet.formula?, hold]
    exact holdFormula
  heights := by
    intro row height hheight
    obtain ⟨line, hline, hsize⟩ := ((LineEdit.removal k).movesTo_rowHeights w row height).1 hheight
    exact (Removal.le_of_row? hline).trans_lt (h.heights line height hsize)
  merged := by
    intro region hmem
    rw [k.merged_sheet, List.mem_filter, List.mem_filterMap] at hmem
    obtain ⟨⟨old, hold, hregion⟩, -⟩ := hmem
    exact (h.merged old hold).removal hregion
  filter := by
    intro region hmem
    have hfilter := (LineEdit.removal k).filter_sheet w
    rw [Option.mem_def, show (k.sheet w).filter = _ from hfilter, Option.bind_eq_some_iff] at hmem
    obtain ⟨old, hold, hregion⟩ := hmem
    exact (h.filter old hold).removal hregion

end Left

/-! ## Writing -/

section Writing

variable {w : Worksheet}

theorem Worksheet.WithinLimits.setValue (h : w.WithinLimits) {place : Coord}
    (hrow : place.row < maxRows) (hcol : place.col < maxColumns) (value : CellValue) :
    (w.setValue place value).WithinLimits where
  cells := by
    intro p cell hcell
    rw [cell?_setValue] at hcell
    split at hcell
    · next hp => exact hp ▸ ⟨hrow, hcol⟩
    · exact h.cells p cell hcell
  formulas := by
    intro p formula hformula
    rw [formula?, cell?_setValue] at hformula
    split at hformula
    · cases hformula
    · exact h.formulas p formula hformula
  heights := h.heights
  merged := h.merged
  filter := h.filter

theorem Worksheet.WithinLimits.withoutFormulas (h : w.WithinLimits) (places : List Coord) :
    (w.withoutFormulas places).WithinLimits where
  cells := by
    intro p cell hcell
    rw [cell?_withoutFormulas] at hcell
    split at hcell
    · obtain ⟨old, hold, -⟩ := Option.map_eq_some_iff.1 hcell
      exact h.cells p old hold
    · exact h.cells p cell hcell
  formulas := by
    intro p formula hformula
    rw [formula?, cell?_withoutFormulas] at hformula
    split at hformula
    · rw [Option.bind_map] at hformula
      obtain ⟨old, -, hnone⟩ := Option.bind_eq_some_iff.1 hformula
      cases hnone
    · exact h.formulas p formula hformula
  heights := h.heights
  merged := h.merged
  filter := h.filter

end Writing

end SheetPress
