import SheetPress.Proofs.Evaluation.Alike
import SheetPress.Proofs.Evaluation.Visits

/-!
# Cells that an expression reads

A reference covers places: one cell, a rectangle, whole columns or whole rows.  What a reference
visits is settled by the cells stored at the places it covers, and the value of an expression by what
its references visit.

* `Expr.visit?_congr` — two scopes with the same cells at the covered places are visited alike.
* `Expr.eval_congr` — an expression has the same value in two scopes that its references visit alike.
-/

namespace SheetPress

namespace Expr

/-- The name of the sheet in front of a reference. -/
def sheet? : Expr → Option String
  | cell sheet .. => sheet
  | range sheet .. => sheet
  | columns sheet .. => sheet
  | rows sheet .. => sheet
  | _ => none

/-- The places that a reference covers. -/
def Covers : Expr → Coord → Prop
  | cell _ ref, place => place = ref.place
  | range _ first last, place =>
    (min first.place.row last.place.row ≤ place.row ∧
      place.row ≤ max first.place.row last.place.row) ∧
    min first.place.col last.place.col ≤ place.col ∧
      place.col ≤ max first.place.col last.place.col
  | columns _ first last, place =>
    min (columnIndex first.column.toList) (columnIndex last.column.toList) ≤ place.col ∧
      place.col ≤ max (columnIndex first.column.toList) (columnIndex last.column.toList)
  | rows _ first last, place =>
    min (first - 1) (last - 1) ≤ place.row ∧ place.row ≤ max (first - 1) (last - 1)
  | _, _ => False

end Expr

/-! ## Visited cells -/

namespace Grid

variable {g g' : Grid}

/-- Two grids with the same cells at the places of a kind list the same cells of that kind. -/
theorem filter_toList_congr {p : Coord → Bool}
    (h : ∀ place, p place = true → g.get? place = g'.get? place) :
    (g.toList.filter fun entry => p entry.1) = g'.toList.filter fun entry => p entry.1 := by
  refine eq_of_sorted (g.sorted_toList.filter _) (g'.sorted_toList.filter _) ?_
  rintro ⟨place, cell⟩
  simp only [List.mem_filter, mem_toList]
  constructor
  · rintro ⟨hget, hp⟩
    exact ⟨h place hp ▸ hget, hp⟩
  · rintro ⟨hget, hp⟩
    exact ⟨(h place hp).trans hget, hp⟩

theorem inRectangle_congr {a b : Coord}
    (h : ∀ place, ((min a.row b.row ≤ place.row ∧ place.row ≤ max a.row b.row) ∧
      min a.col b.col ≤ place.col ∧ place.col ≤ max a.col b.col) → g.get? place = g'.get? place) :
    g.inRectangle a b = g'.inRectangle a b := by
  refine List.flatMap_congr fun row hrow => List.map_congr_left fun col hcol => ?_
  exact h ⟨row, col⟩ ⟨mem_between.1 hrow, mem_between.1 hcol⟩

theorem inColumns_congr {a b : Nat}
    (h : ∀ place : Coord, min a b ≤ place.col ∧ place.col ≤ max a b →
      g.get? place = g'.get? place) : g.inColumns a b = g'.inColumns a b := by
  have hfilter := filter_toList_congr (g := g)
    (p := fun place => min a b ≤ place.col ∧ place.col ≤ max a b)
    fun place hp => h place (of_decide_eq_true hp)
  unfold inColumns
  simp only [Bool.decide_and] at hfilter
  rw [hfilter]

theorem inRows_congr {a b : Nat}
    (h : ∀ place : Coord, min a b ≤ place.row ∧ place.row ≤ max a b →
      g.get? place = g'.get? place) : g.inRows a b = g'.inRows a b := by
  have hfilter := filter_toList_congr (g := g)
    (p := fun place => min a b ≤ place.row ∧ place.row ≤ max a b)
    fun place hp => h place (of_decide_eq_true hp)
  unfold inRows
  simp only [Bool.decide_and] at hfilter
  rw [hfilter]

end Grid

namespace Expr

variable {scope scope' : Scope}

/-- Two scopes with the same cells at the places that a reference covers are visited alike. -/
theorem visit?_congr {r : Expr}
    (h : Option.Rel (fun g g' : Grid => ∀ place, r.Covers place → g.get? place = g'.get? place)
      (scope.grid? r.sheet?) (scope'.grid? r.sheet?)) : r.visit? scope = r.visit? scope' := by
  have hmap : ∀ {β : Type} {f : Grid → β},
      (∀ g g' : Grid, (∀ place, r.Covers place → g.get? place = g'.get? place) → f g = f g') →
        (scope.grid? r.sheet?).map f = (scope'.grid? r.sheet?).map f := by
    intro β f hf
    generalize scope.grid? r.sheet? = seen at h ⊢
    generalize scope'.grid? r.sheet? = seen' at h ⊢
    cases h with
    | none => rfl
    | some hcells => exact congrArg some (hf _ _ hcells)
  cases r with
  | cell sheet ref => exact hmap fun g g' hcells => congrArg (fun c => [c]) (hcells _ rfl)
  | range sheet first last => exact hmap fun g g' hcells => Grid.inRectangle_congr hcells
  | columns sheet first last =>
    exact hmap fun g g' hcells => congrArg (List.map some) (Grid.inColumns_congr hcells)
  | rows sheet first last =>
    exact hmap fun g g' hcells => congrArg (List.map some) (Grid.inRows_congr hcells)
  | _ => rfl

/-! ## Values -/

theorem AlikeCells.refl (cells : List (Option Cell)) : AlikeCells cells cells :=
  ⟨List.forall₂_same.2 fun cell _ => Cell.Alike.refl cell, Iff.rfl⟩

/-- An expression has the same value in two scopes that its references visit alike. -/
theorem eval_congr {e : Expr} (h : ∀ r ∈ e.references, r.visit? scope = r.visit? scope') :
    e.eval scope = e.eval scope' := by
  have heval : (e.mapReferences id).eval scope' = e.eval scope := by
    refine eval_mapReferences fun r hr => ⟨isReference_of_mem_references hr, rfl, ?_⟩
    rw [id_eq, h r hr]
    cases r.visit? scope' with
    | none => exact .none
    | some cells => exact .some (AlikeCells.refl cells)
  rw [← heval, mapReferences_id]

end Expr

end SheetPress
