import Mathlib
import SheetPress.Proofs.Evaluation.Covered

/-!
# Places that references visit

The stored cells that a reference visits together with their places, so that two references in
different sheets can be compared cell by cell.

* `Expr.found` — the stored cells that a reference visits, in order, with their places.
* `Expr.map_visit?_eq_found` — these are the cells that `Expr.visit?` gives, gaps aside.
* `Grid.columnEntries_of_toList`, `Grid.rowEntries_of_toList` — whole columns and rows find their
  cells again when cells move, as long as none moves into them or out of them.
-/

namespace SheetPress

/-- The places of the rectangle between two others, row by row. -/
def placesBetween (a b : Coord) : List Coord :=
  (between (min a.row b.row) (max a.row b.row)).flatMap fun row =>
    (between (min a.col b.col) (max a.col b.col)).map fun col => ⟨row, col⟩

namespace Grid

/-- The stored cell at a place, with that place. -/
def placed? (g : Grid) (place : Coord) : Option (Coord × Cell) := (g.get? place).map (place, ·)

/-- The order of entries column by column. -/
def columnOrder (p q : Coord × Cell) : Bool :=
  p.1.col < q.1.col || (p.1.col == q.1.col && p.1.row ≤ q.1.row)

/-- The stored cells of some columns with their places, column by column. -/
def columnEntries (g : Grid) (a b : Nat) : List (Coord × Cell) :=
  (g.toList.filter fun (place, _) => min a b ≤ place.col && place.col ≤ max a b).mergeSort
    columnOrder

/-- The stored cells of some rows with their places, row by row. -/
def rowEntries (g : Grid) (a b : Nat) : List (Coord × Cell) :=
  g.toList.filter fun (place, _) => min a b ≤ place.row && place.row ≤ max a b

theorem columnOrder_iff {p q : Coord × Cell} :
    columnOrder p q = true ↔ p.1.col < q.1.col ∨ p.1.col = q.1.col ∧ p.1.row ≤ q.1.row := by
  simp [columnOrder]

theorem pairwise_mergeSort_columnOrder (entries : List (Coord × Cell)) :
    (entries.mergeSort columnOrder).Pairwise fun p q => columnOrder p q = true := by
  refine List.pairwise_mergeSort (fun p q r hpq hqr => ?_) (fun p q => ?_) entries
  · rw [columnOrder_iff] at *
    omega
  · rw [Bool.or_eq_true, columnOrder_iff, columnOrder_iff]
    omega

/-- Entries that keep their order column by column are sorted before or after they move, as long as no
two of them end up at one place. -/
theorem mergeSort_filterMap_columnOrder {f : Coord × Cell → Option (Coord × Cell)}
    (hf : ∀ p q p' q', f p = some p' → f q = some q' → columnOrder p q = true →
      columnOrder p' q' = true) {entries : List (Coord × Cell)}
    (hplaces : ∀ p ∈ entries.filterMap f, ∀ q ∈ entries.filterMap f, p.1 = q.1 → p = q) :
    (entries.filterMap f).mergeSort columnOrder = (entries.mergeSort columnOrder).filterMap f := by
  have hsorted : ((entries.mergeSort columnOrder).filterMap f).Pairwise
      fun p q => columnOrder p q = true :=
    List.Pairwise.filterMap f (fun p q hpq p' hp' q' hq' => hf p q p' q' hp' hq' hpq)
      (pairwise_mergeSort_columnOrder entries)
  have hperm : ((entries.mergeSort columnOrder).filterMap f).Perm (entries.filterMap f) :=
    (List.mergeSort_perm entries columnOrder).filterMap f
  have hperm' := List.mergeSort_perm (entries.filterMap f) columnOrder
  refine List.Perm.eq_of_pairwise (fun p q hp hq hpq hqp => ?_)
    (pairwise_mergeSort_columnOrder _) hsorted (hperm'.trans hperm.symm)
  refine hplaces p (hperm'.mem_iff.1 hp) q (hperm.mem_iff.1 hq) ?_
  rw [columnOrder_iff] at hpq hqp
  rw [← Coord.compare_eq_eq, Coord.compare_def, Ordering.then_eq_eq, Nat.compare_eq_eq,
    Nat.compare_eq_eq]
  omega

/-- Entries are filtered before or after they move if the condition does not see the move. -/
theorem filter_filterMap_of_iff {f : Coord × Cell → Option (Coord × Cell)} {p : Coord × Cell → Bool}
    {entries : List (Coord × Cell)}
    (h : ∀ entry ∈ entries, ∀ entry', f entry = some entry' → p entry' = p entry) :
    (entries.filterMap f).filter p = (entries.filter p).filterMap f := by
  induction entries with
  | nil => rfl
  | cons entry entries ih =>
    have ih := ih fun entry' hmem => h entry' (List.mem_cons_of_mem _ hmem)
    cases hentry : f entry with
    | none =>
      rw [List.filterMap_cons_none hentry, ih, List.filter_cons]
      split
      · rw [List.filterMap_cons_none hentry]
      · rfl
    | some entry' =>
      rw [List.filterMap_cons_some hentry, List.filter_cons, List.filter_cons,
        h entry (List.mem_cons_self ..) entry' hentry, ih]
      split
      · rw [List.filterMap_cons_some hentry]
      · rfl

section Moves

variable {g g' : Grid} {f : Coord × Cell → Option (Coord × Cell)} {rows cols : Nat → Option Nat}
  {a b : Nat}

/-- A move that keeps the order of the rows and that of the columns keeps the order of entries column
by column. -/
theorem columnOrder_of_keepsLines (hrows : KeepsLines rows) (hcols : KeepsLines cols)
    {p q p' q' : Coord} (hp : rows p.row = some p'.row ∧ cols p.col = some p'.col)
    (hq : rows q.row = some q'.row ∧ cols q.col = some q'.col)
    (h : p.col < q.col ∨ p.col = q.col ∧ p.row ≤ q.row) :
    p'.col < q'.col ∨ p'.col = q'.col ∧ p'.row ≤ q'.row := by
  rcases h with hlt | ⟨hcol, hle⟩
  · exact .inl (hcols _ _ _ _ hp.2 hq.2 hlt)
  · refine .inr ⟨Option.some.inj (hp.2.symm.trans (hcol ▸ hq.2)), ?_⟩
    rcases hle.eq_or_lt with hrow | hlt
    · exact (Option.some.inj (hp.1.symm.trans (hrow ▸ hq.1))).le
    · exact (hrows _ _ _ _ hp.1 hq.1 hlt).le

/-- Whole columns find the cells that they found before if the move keeps the order of the lines and
takes no stored cell into the columns or out of them. -/
theorem columnEntries_of_toList (hlist : g'.toList = g.toList.filterMap f) (hrows : KeepsLines rows)
    (hcols : KeepsLines cols)
    (hmoves : ∀ p p', f p = some p' → rows p.1.row = some p'.1.row ∧ cols p.1.col = some p'.1.col)
    (hcovers : ∀ p ∈ g.toList, ∀ p', f p = some p' →
      (min a b ≤ p'.1.col ∧ p'.1.col ≤ max a b ↔ min a b ≤ p.1.col ∧ p.1.col ≤ max a b)) :
    g'.columnEntries a b = (g.columnEntries a b).filterMap f := by
  unfold columnEntries
  rw [hlist, filter_filterMap_of_iff]
  · refine mergeSort_filterMap_columnOrder (fun p q p' q' hp hq h => ?_) fun p hp q hq hplace => ?_
    · rw [columnOrder_iff] at h ⊢
      exact columnOrder_of_keepsLines hrows hcols (hmoves p p' hp) (hmoves q q' hq) h
    · -- what has moved is stored in the new grid, which has one cell for each place
      have hstored : ∀ entry ∈ (g.toList.filter fun (place, _) =>
          min a b ≤ place.col && place.col ≤ max a b).filterMap f,
          g'.get? entry.1 = some entry.2 := by
        intro entry hentry
        rw [← mem_toList, hlist]
        exact List.filterMap_subset _ (List.filter_subset_self _) hentry
      have hcell := hstored p hp
      rw [hplace, hstored q hq] at hcell
      exact Prod.ext hplace (Option.some.inj hcell).symm
  · intro p hp p' hp'
    exact Bool.eq_iff_iff.2 (by simpa using hcovers p hp p' hp')

/-- Whole rows find the cells that they found before if the move takes no stored cell into them or out
of them. -/
theorem rowEntries_of_toList (hlist : g'.toList = g.toList.filterMap f)
    (hcovers : ∀ p ∈ g.toList, ∀ p', f p = some p' →
      (min a b ≤ p'.1.row ∧ p'.1.row ≤ max a b ↔ min a b ≤ p.1.row ∧ p.1.row ≤ max a b)) :
    g'.rowEntries a b = (g.rowEntries a b).filterMap f := by
  unfold rowEntries
  rw [hlist, filter_filterMap_of_iff]
  intro p hp p' hp'
  exact Bool.eq_iff_iff.2 (by simpa using hcovers p hp p' hp')

end Moves

theorem inRectangle_eq (g : Grid) (a b : Coord) :
    g.inRectangle a b = (placesBetween a b).map g.get? := by
  simp only [inRectangle, placesBetween, List.map_flatMap, List.map_map, Function.comp_def]

theorem filterMap_map_get? (g : Grid) (places : List Coord) :
    (places.map g.get?).filterMap id = (places.filterMap g.placed?).map (·.2) := by
  rw [List.filterMap_map, Function.id_comp, List.map_filterMap]
  congr 1
  funext place
  unfold placed?
  cases g.get? place <;> rfl

end Grid

namespace Expr

/-- References to the sheet that holds the formula. -/
def IsLocal : Expr → Prop
  | cell none _ => True
  | range none _ _ => True
  | columns none _ _ => True
  | rows none _ _ => True
  | _ => False

/-- The stored cells that a reference visits, in order, with their places. -/
def found (g : Grid) : Expr → List (Coord × Cell)
  | cell _ a => [a.place].filterMap g.placed?
  | range _ a b => (placesBetween a.place b.place).filterMap g.placed?
  | columns _ a b => g.columnEntries (columnIndex a.column.toList) (columnIndex b.column.toList)
  | rows _ a b => g.rowEntries (a - 1) (b - 1)
  | _ => []

/-- Gaps aside, a reference visits the cells that are found for it in its sheet. -/
theorem map_visit?_eq_found (scope : Scope) {r : Expr} (h : r.isReference = true) :
    (r.visit? scope).map (·.filterMap id) =
      (scope.grid? r.sheet?).map fun g => (r.found g).map (·.2) := by
  match r, h with
  | .cell sheet a, _ =>
    rw [visit?, Option.map_map]
    exact Option.map_congr fun g _ => g.filterMap_map_get? [a.place]
  | .range sheet a b, _ =>
    rw [visit?, Option.map_map]
    refine Option.map_congr fun g _ => ?_
    rw [Function.comp_apply, g.inRectangle_eq, g.filterMap_map_get?]
    rfl
  | .columns sheet a b, _ =>
    rw [visit?, Option.map_map]
    refine Option.map_congr fun g _ => ?_
    rw [Function.comp_apply, List.filterMap_map, Function.id_comp, List.filterMap_some]
    rfl
  | .rows sheet a b, _ =>
    rw [visit?, Option.map_map]
    refine Option.map_congr fun g _ => ?_
    rw [Function.comp_apply, List.filterMap_map, Function.id_comp, List.filterMap_some]
    rfl

theorem isReference_of_isLocal {r : Expr} (h : r.IsLocal) :
    r.isReference = true ∧ r.sheet? = none := by
  match r, h with
  | .cell none _, _ => exact ⟨rfl, rfl⟩
  | .range none _ _, _ => exact ⟨rfl, rfl⟩
  | .columns none _ _, _ => exact ⟨rfl, rfl⟩
  | .rows none _ _, _ => exact ⟨rfl, rfl⟩

theorem visit?_eq_found (g : Grid) {r : Expr} (h : r.IsLocal) :
    (r.visit? (.single g)).map (·.filterMap id) = some ((r.found g).map (·.2)) := by
  obtain ⟨hreference, hsheet⟩ := isReference_of_isLocal h
  rw [map_visit?_eq_found (.single g) hreference, hsheet]
  rfl

end Expr

end SheetPress
