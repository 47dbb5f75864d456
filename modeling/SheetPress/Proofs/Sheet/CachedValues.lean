import SheetPress.Proofs.Sheet.Dependencies

/-!
# Values that formulas gave

`Workbook.withoutCached` forgets the values of formula cells and keeps everything else: names,
styles, layout, formulas, stored places and the values of all other cells.  Two workbooks that are
equal but for those values have the same dependencies.

* `Workbook.height_eq` — the heights of formula cells do not depend on cached values.
* `Workbook.eq_of_withoutCached_eq` — the workbooks are equal if their formula cells are.
-/

namespace SheetPress

/-! ## Cached values -/

/-- A cell without the value that its formula gave. -/
def Cell.withoutCached (cell : Cell) : Cell :=
  if cell.hasFormula then { cell with value := .empty } else cell

namespace Cell

variable {scope : Scope} {cell : Cell}

theorem hasFormula_withoutCached (cell : Cell) : cell.withoutCached.hasFormula = cell.hasFormula := by
  unfold withoutCached
  split <;> rfl

theorem formula_withoutCached (cell : Cell) : cell.withoutCached.formula = cell.formula := by
  unfold withoutCached
  split <;> rfl

theorem withoutCached_of_formula_eq_none (h : cell.formula = none) : cell.withoutCached = cell := by
  rw [withoutCached, hasFormula, h]
  rfl

theorem withoutCached_of_formula_eq_some {formula : String} (h : cell.formula = some formula) :
    cell.withoutCached = { cell with value := .empty } := by
  rw [withoutCached, hasFormula, h]
  rfl

theorem withoutCached_recalculate (scope : Scope) (cell : Cell) :
    (cell.recalculate scope).withoutCached = cell.withoutCached := by
  unfold recalculate
  split
  · rfl
  · next formula hformula =>
    dsimp only
    split
    · rfl
    · exact (withoutCached_of_formula_eq_some (by exact hformula)).trans
        (withoutCached_of_formula_eq_some hformula).symm

theorem recalculate_of_not_isStale (h : cell.isStale scope = false) :
    cell.recalculate scope = cell := by
  unfold recalculate
  split
  · rfl
  · next formula hformula =>
    rw [isStale, hformula, Option.any_some, Bool.not_eq_eq_eq_not, Bool.not_false] at h
    dsimp only
    rw [h, if_pos rfl]

theorem recalculate_of_formula_eq_some {formula : String} (h : cell.formula = some formula)
    (hapart : cell.value.agrees (formulaValue scope formula) = true →
      cell.value = formulaValue scope formula) :
    cell.recalculate scope = { cell with value := formulaValue scope formula } := by
  unfold recalculate
  rw [h]
  dsimp only
  split
  · next hagrees => rw [← hapart hagrees, ← h]
  · rfl

end Cell

/-- A sheet without the values that its formulas gave. -/
def Worksheet.withoutCached (w : Worksheet) : Worksheet :=
  { w with grid := w.grid.mapCells Cell.withoutCached }

theorem Worksheet.eq_of_withoutCached_eq {w w' : Worksheet}
    (h : w.withoutCached = w'.withoutCached) (hcells : ∀ place, w.cell? place = w'.cell? place) :
    w = w' := by
  obtain ⟨name, grid, rowHeights, columnWidths, merged, filter⟩ := w
  obtain ⟨name', grid', rowHeights', columnWidths', merged', filter'⟩ := w'
  simp only [withoutCached, Worksheet.mk.injEq, Grid.mapCells, Grid.mk.injEq] at h
  obtain ⟨rfl, ⟨-, hrow, hcol⟩, rfl, rfl, rfl, rfl⟩ := h
  rw [Grid.ext_get? hrow hcol hcells]

namespace Workbook

variable {b b' : Workbook}

/-- A workbook without the values that its formulas gave: names, styles, layout, formulas, stored
places and the values of all other cells. -/
def withoutCached (b : Workbook) : Workbook :=
  { b with sheets := b.sheets.map Worksheet.withoutCached }

theorem sheetNames_withoutCached (b : Workbook) : b.withoutCached.sheetNames = b.sheetNames :=
  List.map_map

theorem cellAt?_withoutCached (b : Workbook) (p : CellAddress) :
    b.withoutCached.cellAt? p = (b.cellAt? p).map Cell.withoutCached := by
  rw [cellAt?, cellAt?, withoutCached, List.getElem?_map, Option.bind_map, Option.map_bind]
  exact congrArg _ (funext fun sheet => Grid.get?_mapCells sheet.grid _ p.place)

theorem holdsFormula_withoutCached {p : CellAddress} :
    b.withoutCached.HoldsFormula p ↔ b.HoldsFormula p := by
  unfold HoldsFormula
  rw [cellAt?_withoutCached]
  constructor
  · rintro ⟨cell, hcell, hformula⟩
    obtain ⟨cell, hget, rfl⟩ := Option.map_eq_some_iff.1 hcell
    exact ⟨cell, hget, (Cell.hasFormula_withoutCached cell) ▸ hformula⟩
  · rintro ⟨cell, hcell, hformula⟩
    exact ⟨cell.withoutCached, by rw [hcell, Option.map_some],
      (Cell.hasFormula_withoutCached cell).trans hformula⟩

theorem dependsOn_withoutCached (b : Workbook) : b.withoutCached.DependsOn = b.DependsOn := by
  funext p q
  refine propext (and_congr holdsFormula_withoutCached ?_)
  unfold Covers
  rw [cellAt?_withoutCached, sheetNames_withoutCached]
  constructor
  · rintro ⟨cell, formula, hcell, hformula, hcovers⟩
    obtain ⟨cell, hget, rfl⟩ := Option.map_eq_some_iff.1 hcell
    exact ⟨cell, formula, hget, (Cell.formula_withoutCached cell) ▸ hformula, hcovers⟩
  · rintro ⟨cell, formula, hcell, hformula, hcovers⟩
    exact ⟨cell.withoutCached, formula, by rw [hcell, Option.map_some],
      (Cell.formula_withoutCached cell).trans hformula, hcovers⟩

theorem height_withoutCached (b : Workbook) : b.withoutCached.height = b.height := by
  classical
  funext p
  unfold height
  have hcells : b.withoutCached.formulaCells.toFinset = b.formulaCells.toFinset := by
    ext q
    rw [List.mem_toFinset, List.mem_toFinset, mem_formulaCells, mem_formulaCells,
      holdsFormula_withoutCached]
  rw [hcells, dependsOn_withoutCached]

/-! ## Workbooks that differ in cached values alone -/

section SameBut

variable (h : b.withoutCached = b'.withoutCached)

include h

theorem sheetNames_eq : b.sheetNames = b'.sheetNames := by
  rw [← sheetNames_withoutCached, h, sheetNames_withoutCached]

theorem holdsFormula_iff {p : CellAddress} : b.HoldsFormula p ↔ b'.HoldsFormula p := by
  rw [← holdsFormula_withoutCached, h, holdsFormula_withoutCached]

theorem acyclic_iff : b.Acyclic ↔ b'.Acyclic := by
  unfold Acyclic
  rw [← dependsOn_withoutCached, h, dependsOn_withoutCached]

theorem height_eq : b.height = b'.height := by
  rw [← height_withoutCached, h, height_withoutCached]

theorem formulaCount_eq : b.formulaCount = b'.formulaCount := by
  rw [← length_formulaCells, ← length_formulaCells]
  refine List.Perm.length_eq ?_
  rw [List.perm_ext_iff_of_nodup (nodup_formulaCells b) (nodup_formulaCells b')]
  intro p
  rw [mem_formulaCells, mem_formulaCells, holdsFormula_iff h]

theorem map_cellAt?_eq (p : CellAddress) :
    (b.cellAt? p).map Cell.withoutCached = (b'.cellAt? p).map Cell.withoutCached := by
  rw [← cellAt?_withoutCached, h, cellAt?_withoutCached]

theorem cellAt?_eq_of_not_holdsFormula {p : CellAddress} (hp : ¬ b.HoldsFormula p) :
    b.cellAt? p = b'.cellAt? p := by
  have hplain : ∀ {b : Workbook}, ¬ b.HoldsFormula p →
      (b.cellAt? p).map Cell.withoutCached = b.cellAt? p := by
    intro b hp
    cases hcell : b.cellAt? p with
    | none => rfl
    | some cell =>
      refine congrArg some (Cell.withoutCached_of_formula_eq_none ?_)
      cases hformula : cell.formula with
      | none => rfl
      | some formula =>
        exact absurd ⟨cell, hcell, by rw [Cell.hasFormula, hformula]; rfl⟩ hp
  rw [← hplain hp, map_cellAt?_eq h, hplain fun hp' => hp ((holdsFormula_iff h).2 hp')]

theorem eq_of_withoutCached_eq (hcells : ∀ p, b.HoldsFormula p → b.cellAt? p = b'.cellAt? p) :
    b = b' := by
  have hcells : ∀ p, b.cellAt? p = b'.cellAt? p := by
    intro p
    by_cases hp : b.HoldsFormula p
    · exact hcells p hp
    · exact cellAt?_eq_of_not_holdsFormula h hp
  have hstyles : b.withoutCached.styles = b'.withoutCached.styles := by rw [h]
  have hsheets : b.sheets = b'.sheets := by
    refine List.ext_getElem? fun i => ?_
    have hsheet : (b.sheets.map Worksheet.withoutCached)[i]? =
        (b'.sheets.map Worksheet.withoutCached)[i]? :=
      congrArg (fun b : Workbook => b.sheets[i]?) h
    rw [List.getElem?_map, List.getElem?_map] at hsheet
    cases hi : b.sheets[i]? with
    | none =>
      rw [hi, Option.map_none, eq_comm, Option.map_eq_none_iff] at hsheet
      exact hsheet.symm
    | some sheet =>
      rw [hi, Option.map_some, eq_comm, Option.map_eq_some_iff] at hsheet
      obtain ⟨sheet', hi', heq⟩ := hsheet
      rw [hi']
      refine congrArg some (Worksheet.eq_of_withoutCached_eq heq.symm fun place => ?_)
      rw [← cellAt?_eq (p := ⟨i, place⟩) hi, ← cellAt?_eq (p := ⟨i, place⟩) hi', hcells]
  obtain ⟨sheets, styles⟩ := b
  obtain ⟨sheets', styles'⟩ := b'
  obtain rfl : sheets = sheets' := hsheets
  obtain rfl : styles = styles' := hstyles
  rfl

end SameBut

end Workbook

end SheetPress
