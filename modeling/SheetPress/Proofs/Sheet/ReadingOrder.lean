import Mathlib
import SheetPress.Proofs.Coord.Columns
import SheetPress.Proofs.Evaluation.Covered
import SheetPress.Proofs.Evaluation.Places
import SheetPress.Proofs.Sheet.UsedArea

/-!
# The order in which whole lines are read

Whole columns stand for a rectangle that reaches down to the last used row, and whole rows for one
that reaches to the last used column.  They visit the stored cells of that rectangle: whole rows in
reading order, as the rectangle itself does, whole columns one column after the other.

* `Grid.filterMap_placesBetween` — a rectangle finds its stored cells in reading order.
* `Expr.found_rows`, `Expr.found_columns` — what whole lines find, against their rectangle.
* `Expr.found_columns_eq_iff` — when whole columns find their cells in reading order all the same.
* `Worksheet.visit?_wholeLines` — the same of what is visited in a sheet that starts empty.
-/

namespace SheetPress

/-! ## Rectangles in reading order -/

theorem mem_placesBetween {a b place : Coord} :
    place ∈ placesBetween a b ↔
      (min a.row b.row ≤ place.row ∧ place.row ≤ max a.row b.row) ∧
        min a.col b.col ≤ place.col ∧ place.col ≤ max a.col b.col := by
  simp only [placesBetween, List.mem_flatMap, List.mem_map]
  constructor
  · rintro ⟨row, hrow, col, hcol, rfl⟩
    exact ⟨mem_between.1 hrow, mem_between.1 hcol⟩
  · rintro ⟨hrow, hcol⟩
    exact ⟨place.row, mem_between.2 hrow, place.col, mem_between.2 hcol, rfl⟩

theorem sorted_placesBetween (a b : Coord) :
    (placesBetween a b).Pairwise fun p q => compare p q = .lt := by
  refine List.pairwise_flatMap.2 ⟨fun row _ => ?_, ?_⟩
  · refine List.pairwise_map.2 ((sorted_between ..).imp fun hcol => ?_)
    exact Coord.compare_eq_lt.2 (.inr ⟨rfl, hcol⟩)
  · refine (sorted_between ..).imp fun hrow p hp q hq => ?_
    obtain ⟨col, -, rfl⟩ := List.mem_map.1 hp
    obtain ⟨col', -, rfl⟩ := List.mem_map.1 hq
    exact Coord.compare_eq_lt.2 (.inl hrow)

namespace Grid

variable {g : Grid}

theorem placed?_eq_some_iff {place : Coord} {entry : Coord × Cell} :
    g.placed? place = some entry ↔ place = entry.1 ∧ entry ∈ g.toList := by
  rw [placed?, Option.map_eq_some_iff, mem_toList]
  constructor
  · rintro ⟨cell, hcell, rfl⟩
    exact ⟨rfl, hcell⟩
  · rintro ⟨rfl, hcell⟩
    exact ⟨entry.2, hcell, rfl⟩

/-- Places in reading order find their stored cells as the grid lists them. -/
theorem filterMap_placed? {places : List Coord}
    (hsorted : places.Pairwise fun p q => compare p q = .lt) :
    places.filterMap g.placed? = g.toList.filter fun entry => entry.1 ∈ places := by
  have hfound : (places.filterMap g.placed?).Pairwise fun a b => compare a.1 b.1 = .lt :=
    List.Pairwise.filterMap g.placed? (fun p q hpq a ha b hb =>
      (placed?_eq_some_iff.1 ha).1 ▸ (placed?_eq_some_iff.1 hb).1 ▸ hpq) hsorted
  refine eq_of_sorted hfound (g.sorted_toList.filter _) fun entry => ?_
  simp only [List.mem_filterMap, List.mem_filter, placed?_eq_some_iff, decide_eq_true_eq]
  constructor
  · rintro ⟨place, hplace, rfl, hentry⟩
    exact ⟨hentry, hplace⟩
  · rintro ⟨hentry, hplace⟩
    exact ⟨entry.1, hplace, rfl, hentry⟩

/-- A rectangle finds the stored cells within its corners, in reading order. -/
theorem filterMap_placesBetween (g : Grid) (a b : Coord) :
    (placesBetween a b).filterMap g.placed? = g.toList.filter fun entry =>
      (min a.row b.row ≤ entry.1.row ∧ entry.1.row ≤ max a.row b.row) ∧
        min a.col b.col ≤ entry.1.col ∧ entry.1.col ≤ max a.col b.col := by
  rw [filterMap_placed? (sorted_placesBetween a b)]
  exact List.filter_congr fun entry _ => Bool.eq_iff_iff.2 (by simp [mem_placesBetween])

/-- Entries in reading order are in order column by column exactly if no column goes back where a row
goes on. -/
theorem mergeSort_columnOrder_eq_self_iff {entries : List (Coord × Cell)}
    (hsorted : entries.Pairwise fun p q => compare p.1 q.1 = .lt) :
    entries.mergeSort columnOrder = entries ↔
      ∀ p ∈ entries, ∀ q ∈ entries, p.1.row < q.1.row → p.1.col ≤ q.1.col := by
  constructor
  · intro heq
    have hcolumns := pairwise_mergeSort_columnOrder entries
    rw [heq] at hcolumns
    -- either of two entries may come first, so the condition is asked both ways
    have hboth : entries.Pairwise fun p q =>
        (p.1.row < q.1.row → p.1.col ≤ q.1.col) ∧ (q.1.row < p.1.row → q.1.col ≤ p.1.col) := by
      refine (hsorted.and hcolumns).imp fun {p q} hpq => ?_
      rw [Coord.compare_eq_lt, columnOrder_iff] at hpq
      omega
    have hsymm : Std.Symm fun p q : Coord × Cell =>
        (p.1.row < q.1.row → p.1.col ≤ q.1.col) ∧ (q.1.row < p.1.row → q.1.col ≤ p.1.col) :=
      ⟨fun _ _ h => h.symm⟩
    have hself : ∀ p ∈ entries, (p.1.row < p.1.row → p.1.col ≤ p.1.col) ∧
        (p.1.row < p.1.row → p.1.col ≤ p.1.col) := fun _ _ => ⟨fun _ => le_rfl, fun _ => le_rfl⟩
    exact fun p hp q hq => (hboth.forall_of_forall hself hp hq).1
  · intro h
    refine List.mergeSort_of_pairwise (hsorted.imp_of_mem fun {p q} hp hq hpq => ?_)
    rw [columnOrder_iff]
    rcases Coord.compare_eq_lt.1 hpq with hrow | ⟨hrow, hcol⟩
    · have := h p hp q hq hrow
      omega
    · exact .inl hcol

end Grid

/-! ## Whole lines and their rectangle -/

namespace Expr

variable {g : Grid} {scope : Scope}

/-- The rectangle that whole lines stand for in a grid: whole columns reach from row 1 to the last used
row, whole rows from column `A` to the last used column. -/
def rectangle (g : Grid) : Expr → Expr
  | columns sheet first last => range sheet ⟨first.column, 1, first.fixed, false⟩
      ⟨last.column, g.maxRow + 1, last.fixed, false⟩
  | rows sheet first last => range sheet ⟨columnName 0, first, false, false⟩
      ⟨columnName g.maxCol, last, false, false⟩
  | e => e

theorem columnIndex_columnName (n : Nat) : columnIndex (columnName n).toList = n := by
  rw [columnName, String.toList_ofList, columnIndex_columnLetters]

/-- Whole rows find the cells of their rectangle as it finds them. -/
theorem found_rows (h : g.HasBounds) (sheet : Option String) (first last : Nat) :
    (rows sheet first last).found g = ((rows sheet first last).rectangle g).found g := by
  rw [rectangle, found, found, Grid.filterMap_placesBetween, Grid.rowEntries]
  refine List.filter_congr fun entry hentry => Bool.eq_iff_iff.2 ?_
  have hcol := h.col.le entry.1 entry.2 (Grid.mem_toList.1 hentry)
  simp [CellRef.place, Coord.ofLetters, columnIndex_columnName, hcol]

/-- Whole columns find the cells of their rectangle, one column after the other. -/
theorem found_columns (h : g.HasBounds) (sheet : Option String) (first last : ColumnRef) :
    (columns sheet first last).found g =
      (((columns sheet first last).rectangle g).found g).mergeSort Grid.columnOrder := by
  rw [rectangle, found, found, Grid.filterMap_placesBetween, Grid.columnEntries]
  congr 1
  refine List.filter_congr fun entry hentry => Bool.eq_iff_iff.2 ?_
  have hrow := h.row.le entry.1 entry.2 (Grid.mem_toList.1 hentry)
  simp [CellRef.place, Coord.ofLetters, hrow]

/-- Whole columns find their cells in reading order exactly if no cell of theirs stands below and to
the left of another. -/
theorem found_columns_eq_iff (h : g.HasBounds) (sheet : Option String) (first last : ColumnRef) :
    let r := columns sheet first last
    r.found g = (r.rectangle g).found g ↔
      ∀ p ∈ r.found g, ∀ q ∈ r.found g, p.1.row < q.1.row → p.1.col ≤ q.1.col := by
  intro r
  have hsorted : ((r.rectangle g).found g).Pairwise fun p q => compare p.1 q.1 = .lt := by
    rw [rectangle, found, Grid.filterMap_placesBetween]
    exact g.sorted_toList.filter _
  rw [found_columns h, Grid.mergeSort_columnOrder_eq_self_iff hsorted]
  simp only [List.mem_mergeSort, r]

/-- References to whole columns or whole rows. -/
def IsWholeLines : Expr → Prop
  | columns .. => True
  | rows .. => True
  | _ => False

/-- Whole lines visit stored cells only. -/
theorem visit?_of_isWholeLines (scope : Scope) {r : Expr} (h : r.IsWholeLines) :
    r.visit? scope = (scope.grid? r.sheet?).map fun g => (r.found g).map (some ·.2) := by
  match r, h with
  | .columns .., _ => exact Option.map_congr fun g _ => List.map_map
  | .rows .., _ => exact Option.map_congr fun g _ => List.map_map

theorem isReference_rectangle {r : Expr} (h : r.IsWholeLines) (g : Grid) :
    (r.rectangle g).isReference = true ∧ (r.rectangle g).sheet? = r.sheet? := by
  match r, h with
  | .columns .., _ => exact ⟨rfl, rfl⟩
  | .rows .., _ => exact ⟨rfl, rfl⟩

end Expr

/-! ## Sheets that start empty -/

namespace Worksheet

/-- What whole lines visit in a sheet that starts empty, whatever is done to it.  They visit the stored
cells of the rectangle that they stand for: those that it visits with the gaps dropped, each once.
Whole rows do so in the same order.  Whole columns go down one column after the other, which is the
same order exactly if no cell of theirs stands below and to the left of another. -/
theorem visit?_wholeLines (name : String) (changes : List Change) {scope : Scope} {r : Expr}
    (hr : r.IsWholeLines)
    (hsheet : scope.grid? r.sheet? = some (({ name } : Worksheet).after changes).grid) :
    let g := (({ name } : Worksheet).after changes).grid
    r.visit? scope = some ((r.found g).map (some ·.2)) ∧
      ((r.rectangle g).visit? scope).map (·.filterMap id) =
        some (((r.rectangle g).found g).map (·.2)) ∧
      match r with
      | .columns .. =>
        r.found g = ((r.rectangle g).found g).mergeSort Grid.columnOrder ∧
          (r.found g = (r.rectangle g).found g ↔
            ∀ p ∈ r.found g, ∀ q ∈ r.found g, p.1.row < q.1.row → p.1.col ≤ q.1.col)
      | _ => r.found g = (r.rectangle g).found g := by
  intro g
  have h : g.HasBounds := hasBounds_after name changes
  obtain ⟨hreference, hrectangle⟩ := Expr.isReference_rectangle hr g
  refine ⟨?_, ?_, ?_⟩
  · rw [Expr.visit?_of_isWholeLines scope hr, hsheet, Option.map_some]
  · rw [Expr.map_visit?_eq_found scope hreference, hrectangle, hsheet, Option.map_some]
  · match r, hr with
    | .columns sheet first last, _ =>
      exact ⟨Expr.found_columns h sheet first last, Expr.found_columns_eq_iff h sheet first last⟩
    | .rows sheet first last, _ => exact Expr.found_rows h sheet first last

/-- Three texts: two in the first row, one below the first of them. -/
def cornerTexts : List Change :=
  [.setValue ⟨0, 0⟩ (.text "a"), .setValue ⟨0, 1⟩ (.text "b"), .setValue ⟨1, 0⟩ (.text "c")]

/-- A grid with these texts. -/
def cornerGrid : Grid := (Worksheet.after { name := "Texts" } cornerTexts).grid

/-- The columns of these texts. -/
def columnsAB : Expr := .columns none ⟨"A", false⟩ ⟨"B", false⟩

/-- The columns are whole lines of that sheet and visit its cells. -/
theorem visit?_wholeLines_corner :
    columnsAB.IsWholeLines ∧ (Scope.single cornerGrid).grid? columnsAB.sheet? = some cornerGrid ∧
      columnsAB.visit? (.single cornerGrid) =
        some ((columnsAB.found cornerGrid).map (some ·.2)) := by
  have hr : columnsAB.IsWholeLines := trivial
  exact ⟨hr, rfl, (visit?_wholeLines "Texts" cornerTexts hr rfl).1⟩

/-- The columns `A:B` do not read like their rectangle `A1:B2`: they give the text of `A2` before that
of `B1`, the rectangle behind it. -/
theorem wholeColumns_leave_readingOrder :
    (columnsAB.visit? (.single cornerGrid)).map (·.filterMap id) =
        some (["a", "c", "b"].map fun s => { value := .text s }) ∧
      ((columnsAB.rectangle cornerGrid).visit? (.single cornerGrid)).map (·.filterMap id) =
        some (["a", "b", "c"].map fun s => { value := .text s }) ∧
      (Expr.eval (.single cornerGrid) (.call "CONCATENATE" [columnsAB])).asText = "acb" ∧
      (Expr.eval (.single cornerGrid)
        (.call "CONCATENATE" [columnsAB.rectangle cornerGrid])).asText = "abc" := by
  have hvisit : columnsAB.visit? (.single cornerGrid) =
      some (["a", "c", "b"].map fun s => some { value := .text s }) := by cbv
  have hvalue : Expr.referenceValue (.single cornerGrid) columnsAB =
      .array (["a", "c", "b"].map .text) := by
    unfold Expr.referenceValue
    rw [hvisit]
    rfl
  refine ⟨?_, ?_, ?_, ?_⟩
  · rw [hvisit]
    rfl
  · decide +kernel
  · rw [Expr.eval, Expr.evalArguments, hvisit, columnsAB, Expr.eval, ← columnsAB, hvalue]
    decide +kernel
  · decide +kernel

end Worksheet

end SheetPress
