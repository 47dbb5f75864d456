import Mathlib
import SheetPress.Coord.Region

/-!
# Places in regions

A region whose corners are in order holds the places between them.  Two regions are apart if no place
lies in both, which is settled by their corners.

* `Region.holds_iff` — the places of a region.
* `Region.isApart_iff` — regions are apart if their rows are, or their columns.
-/

namespace SheetPress

namespace Region

/-- The corners of a region are in order. -/
structure IsOrdered (r : Region) : Prop where
  rows : r.startRow ≤ r.endRow
  cols : r.startCol ≤ r.endCol

/-- The corners of a region are in order and lie on a sheet. -/
structure WithinLimits (r : Region) : Prop extends r.IsOrdered where
  endRow : r.endRow < maxRows
  endCol : r.endCol < maxColumns

/-- A place lies in a region. -/
def Holds (r : Region) (place : Coord) : Prop := r.contains place.row place.col = true

instance (r : Region) (place : Coord) : Decidable (r.Holds place) :=
  inferInstanceAs (Decidable (_ = true))

/-- No place lies in both of two regions. -/
def IsApart (r s : Region) : Prop := ∀ place, r.Holds place → ¬ s.Holds place

instance : Std.Symm IsApart := ⟨fun _ _ h place hs hr => h place hr hs⟩

variable {r s : Region} {place : Coord}

theorem holds_iff : r.Holds place ↔
    (r.startRow ≤ place.row ∧ place.row ≤ r.endRow) ∧
      r.startCol ≤ place.col ∧ place.col ≤ r.endCol := by
  simp [Holds, contains, and_assoc]

/-- Regions are apart if their rows are, or their columns. -/
theorem isApart_iff (hr : r.IsOrdered) (hs : s.IsOrdered) :
    r.IsApart s ↔ ¬ ((r.startRow ≤ s.endRow ∧ s.startRow ≤ r.endRow) ∧
      r.startCol ≤ s.endCol ∧ s.startCol ≤ r.endCol) := by
  have hrows := hr.rows
  have hcols := hr.cols
  have hrows' := hs.rows
  have hcols' := hs.cols
  constructor
  · rintro hapart ⟨⟨hrow, hrow'⟩, hcol, hcol'⟩
    refine hapart ⟨max r.startRow s.startRow, max r.startCol s.startCol⟩ ?_ ?_ <;>
      rw [holds_iff] <;> dsimp only <;> omega
  · intro hmeet place hr hs
    rw [holds_iff] at hr hs
    omega

/-- The first corner of a region does not lie in another one. -/
theorem IsApart.contains_corner (h : r.IsApart s) (hs : s.IsOrdered) :
    r.contains s.startRow s.startCol = false :=
  Bool.eq_false_iff.2 fun hr => h ⟨s.startRow, s.startCol⟩ hr
    (holds_iff.2 ⟨⟨le_rfl, hs.rows⟩, le_rfl, hs.cols⟩)

/-- A single cell is one place. -/
theorem eq_of_isSingleCell (h : r.isSingleCell = true) {place place' : Coord}
    (hplace : r.Holds place) (hplace' : r.Holds place') : place = place' := by
  simp only [isSingleCell, Bool.and_eq_true, beq_iff_eq] at h
  rw [holds_iff] at hplace hplace'
  obtain ⟨row, col⟩ := place
  obtain ⟨row', col'⟩ := place'
  rw [Coord.mk.injEq]
  dsimp only at hplace hplace'
  omega

end Region

end SheetPress
