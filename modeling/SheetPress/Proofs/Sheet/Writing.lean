import SheetPress.Proofs.Sheet.Grid
import SheetPress.Sheet.Worksheet

/-!
# Cells that are written

Reading the cells of a sheet after one of them was written or cleared.  Every write is local: the
other cells are as they were (`Worksheet.cell?_clearCell` and the lemmas beside it).
-/

namespace SheetPress

namespace Worksheet

variable {w : Worksheet} {place p : Coord}

theorem cell?_setValue (w : Worksheet) (place p : Coord) (value : CellValue) :
    (w.setValue place value).cell? p =
      if p = place then some { ((w.cell? place).getD {}) with formula := none, value }
      else w.cell? p :=
  Grid.get?_set ..

theorem cell?_setStyle (w : Worksheet) (place p : Coord) (style : Nat) :
    (w.setStyle place style).cell? p =
      if p = place then some { ((w.cell? place).getD {}) with style } else w.cell? p :=
  Grid.get?_set ..

theorem cell?_setFormula {formula : String} (h : isBlankText formula = false)
    (w : Worksheet) (place p : Coord) :
    (w.setFormula place formula).cell? p =
      if p = place then
        some { ((w.cell? place).getD {}) with
          formula := some (withEquals formula), value := .empty }
      else w.cell? p := by
  rw [setFormula, h]
  exact Grid.get?_set ..

/-- A blank text drops the formula of a stored cell. -/
theorem cell?_setFormula_of_isBlankText {formula : String} (h : isBlankText formula = true)
    (w : Worksheet) (place p : Coord) :
    (w.setFormula place formula).cell? p =
      if p = place then (w.cell? place).map fun cell => { cell with formula := none }
      else w.cell? p := by
  rw [setFormula, h, if_pos rfl]
  cases hcell : w.cell? place with
  | none =>
    by_cases hp : p = place
    · rw [if_pos hp, hp, hcell, Option.map_none]
    · rw [if_neg hp]
  | some cell => exact Grid.get?_set w.grid place p _

theorem cell?_setFormula_of_ne (w : Worksheet) (formula : String) (h : p ≠ place) :
    (w.setFormula place formula).cell? p = w.cell? p := by
  unfold setFormula
  split
  · split
    · exact (Grid.get?_set w.grid place p _).trans (if_neg h)
    · rfl
  · exact (Grid.get?_set ..).trans (if_neg h)

/-- A cell that is cleared keeps its style; in the default style it is not stored any more. -/
theorem cell?_clearCell (w : Worksheet) (place p : Coord) :
    (w.clearCell place).cell? p =
      if p = place then
        (w.cell? place).bind fun cell =>
          if cell.style = 0 then none else some { style := cell.style }
      else w.cell? p := by
  unfold clearCell
  cases hcell : w.cell? place with
  | none =>
    dsimp only
    by_cases hp : p = place
    · rw [if_pos hp, hp, hcell, Option.bind_none]
    · rw [if_neg hp]
  | some cell =>
    dsimp only
    by_cases hstyle : cell.style = 0
    · have hblank : Cell.isBlank { cell with formula := none, value := .empty } = true := by
        rw [Cell.isBlank, hstyle]
        rfl
      rw [hblank, if_pos rfl, Option.bind_some, if_pos hstyle]
      refine (Grid.get?_erase _ place p).trans ?_
      by_cases hp : p = place
      · rw [if_pos hp, if_pos hp]
      · rw [if_neg hp, if_neg hp]
        exact (Grid.get?_set w.grid place p _).trans (if_neg hp)
    · have hblank : Cell.isBlank { cell with formula := none, value := .empty } = false := by
        simp [Cell.isBlank, hstyle]
      rw [hblank, Option.bind_some, if_neg hstyle]
      exact Grid.get?_set w.grid place p _

theorem cell?_clearCell_of_ne (w : Worksheet) (h : p ≠ place) :
    (w.clearCell place).cell? p = w.cell? p := by
  rw [cell?_clearCell, if_neg h]

/-- Clearing a row leaves the other rows alone. -/
theorem cell?_clearRow_of_ne (w : Worksheet) {row : Nat} (h : p.row ≠ row) :
    (w.clearRow row).cell? p = w.cell? p := by
  have hfold : ∀ (places : List Coord) (w : Worksheet), (∀ place ∈ places, place.row = row) →
      (places.foldl clearCell w).cell? p = w.cell? p := by
    intro places
    induction places with
    | nil => intro w _; rfl
    | cons place places ih =>
      intro w hplaces
      rw [List.foldl_cons, ih _ fun q hq => hplaces q (List.mem_cons_of_mem _ hq)]
      refine cell?_clearCell_of_ne w fun heq => h ?_
      rw [heq]
      exact hplaces place (List.mem_cons_self ..)
  refine hfold _ w fun place hplace => ?_
  exact eq_of_beq (List.mem_filter.1 hplace).2

end Worksheet

end SheetPress
