import SheetPress.Proofs.Sheet.Grid

/-!
# Lines that come and go

Where the cells of a sheet are after rows were inserted, or after a row or a column was deleted.  The
moves keep the reading order, so no two cells end up at one place.

* `Worksheet.get?_insertRows`, `cell?_removeRow`, `cell?_removeCol` — a cell is found where its place
  has moved to.
-/

namespace SheetPress

section Insert

variable {start count : Nat}

/-! ## Rows that are inserted -/

/-- Where a cell is after rows were inserted. -/
def Coord.insertRows (start count : Nat) (c : Coord) : Coord :=
  { c with row := movedByInsert start count c.row }

theorem movedByInsert_eq (start count line : Nat) :
    movedByInsert start count line = if line ≥ start then line + count else line := rfl

theorem keepsOrder_insertRows :
    Grid.KeepsOrder fun c => some (Coord.insertRows start count c) := by
  intro a b a' b' ha hb hab
  simp only [Option.some.injEq] at ha hb
  subst ha hb
  rw [Coord.compare_eq_lt] at hab ⊢
  simp only [Coord.insertRows, movedByInsert_eq]
  rcases hab with hab | ⟨hab, hcol⟩
  · left
    split <;> split <;> omega
  · exact Or.inr ⟨by rw [hab], hcol⟩

/-- A cell after rows were inserted somewhere in its sheet. -/
def Cell.insertRows (start count : Nat) (cell : Cell) : Cell :=
  cell.mapFormula fun f => shiftRowsForInsert f start count

namespace Worksheet

variable {w : Worksheet}

theorem grid_insertRows (w : Worksheet) (start : Nat) (hcount : count ≠ 0) :
    (w.insertRows start count).grid =
      (w.grid.rekey fun c => some (c.insertRows start count)).mapCells
        (Cell.insertRows start count) := by
  rw [insertRows, if_neg hcount]
  rfl

theorem get?_insertRows (w : Worksheet) (start : Nat) (hcount : count ≠ 0) (place : Coord) :
    (w.insertRows start count).grid.get? (place.insertRows start count) =
      (w.grid.get? place).map (Cell.insertRows start count) := by
  rw [grid_insertRows w start hcount, Grid.get?_mapCells,
    Grid.get?_rekey_of_eq_some keepsOrder_insertRows.separates rfl]

/-- The inserted rows hold no cells. -/
theorem get?_insertRows_new (w : Worksheet) (start : Nat) (hcount : count ≠ 0) {row : Nat}
    (hrow : ∀ r, movedByInsert start count r ≠ row) (col : Nat) :
    (w.insertRows start count).grid.get? ⟨row, col⟩ = none := by
  rw [grid_insertRows w start hcount, Grid.get?_mapCells,
    Grid.get?_rekey_of_forall_ne keepsOrder_insertRows.separates]
  · rfl
  · intro place hplace
    simp only [Option.some.injEq, Coord.insertRows, Coord.mk.injEq] at hplace
    exact hrow place.row hplace.1

theorem toList_insertRows (w : Worksheet) (start : Nat) (hcount : count ≠ 0) :
    (w.insertRows start count).grid.toList =
      w.grid.toList.map fun (place, cell) =>
        (place.insertRows start count, cell.insertRows start count) := by
  rw [grid_insertRows w start hcount, Grid.toList_mapCells, Grid.toList_rekey keepsOrder_insertRows,
    Grid.moved, ← List.filterMap_eq_map, List.filterMap_filterMap, ← List.filterMap_eq_map]
  rfl

end Worksheet

end Insert

/-! ## Lines that are deleted -/

theorem movedByRemove_eq (removed line : Nat) :
    movedByRemove removed line =
      if line < removed then some line else if line = removed then none else some (line - 1) := by
  unfold movedByRemove
  cases h : compare line removed with
  | lt => rw [if_pos (Nat.compare_eq_lt.1 h)]
  | eq => rw [if_neg (Nat.compare_eq_eq.1 h).not_lt, if_pos (Nat.compare_eq_eq.1 h)]
  | gt =>
    have hgt := Nat.compare_eq_gt.1 h
    rw [if_neg hgt.le.not_gt, if_neg hgt.ne']

/-- A deleted line brings no two lines together and keeps their order. -/
theorem lt_of_movedByRemove {removed a b a' b' : Nat} (ha : movedByRemove removed a = some a')
    (hb : movedByRemove removed b = some b') (hab : a < b) : a' < b' := by
  rw [movedByRemove_eq] at ha hb
  split_ifs at ha hb <;> simp only [Option.some.injEq] at ha hb <;> omega

/-- Where a cell is after a row was deleted. -/
def Coord.removeRow? (removed : Nat) (c : Coord) : Option Coord :=
  (movedByRemove removed c.row).map fun row => { c with row }

/-- Where a cell is after a column was deleted. -/
def Coord.removeCol? (removed : Nat) (c : Coord) : Option Coord :=
  (movedByRemove removed c.col).map fun col => { c with col }

theorem keepsOrder_removeRow (removed : Nat) : Grid.KeepsOrder (Coord.removeRow? removed) := by
  intro a b a' b' ha hb hab
  obtain ⟨ra, hra, rfl⟩ := Option.map_eq_some_iff.1 ha
  obtain ⟨rb, hrb, rfl⟩ := Option.map_eq_some_iff.1 hb
  rw [Coord.compare_eq_lt] at hab ⊢
  rcases hab with hab | ⟨hab, hcol⟩
  · exact Or.inl (lt_of_movedByRemove hra hrb hab)
  · refine Or.inr ⟨?_, hcol⟩
    rw [hab, hrb] at hra
    exact (Option.some.inj hra).symm

theorem keepsOrder_removeCol (removed : Nat) : Grid.KeepsOrder (Coord.removeCol? removed) := by
  intro a b a' b' ha hb hab
  obtain ⟨ca, hca, rfl⟩ := Option.map_eq_some_iff.1 ha
  obtain ⟨cb, hcb, rfl⟩ := Option.map_eq_some_iff.1 hb
  rw [Coord.compare_eq_lt] at hab ⊢
  rcases hab with hab | ⟨hab, hcol⟩
  · exact Or.inl hab
  · exact Or.inr ⟨hab, lt_of_movedByRemove hca hcb hcol⟩

namespace Worksheet

theorem cell?_removeRow (w : Worksheet) {removed : Nat} {place target : Coord}
    (h : place.removeRow? removed = some target) :
    (w.removeRow removed).cell? target =
      (w.cell? place).map (·.mapFormula fun f => shiftRowsForRemove f removed) := by
  refine (Grid.get?_mapCells ..).trans (congrArg _ ?_)
  exact Grid.get?_rekey_of_eq_some (keepsOrder_removeRow removed).separates h

theorem cell?_removeCol (w : Worksheet) {removed : Nat} {place target : Coord}
    (h : place.removeCol? removed = some target) :
    (w.removeCol removed).cell? target =
      (w.cell? place).map (·.mapFormula fun f => shiftColsForRemove f removed) := by
  refine (Grid.get?_mapCells ..).trans (congrArg _ ?_)
  exact Grid.get?_rekey_of_eq_some (keepsOrder_removeCol removed).separates h

end Worksheet

end SheetPress
