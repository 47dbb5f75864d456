import Mathlib
import SheetPress.Proofs.Evaluation.Covered

/-!
# What evaluation reads

The value of an expression is settled by the values and formulas of the cells that its references
cover, and by the names of the sheets that there are.  The style of a cell is not read, nor is any cell
elsewhere.

* `Expr.visit?_unstyled` — a scope without styles is visited like the scope itself.
* `Scope.sameNames_ofSheets` — scopes of sheets with the same names.
* `Expr.eval_reads_covered` — an expression has the same value wherever the cells that it covers have
  the same content.
-/

namespace SheetPress

/-! ## Cells without styles -/

/-- Two cells with the same value and the same formula, in whatever styles. -/
structure Cell.SameContent (a b : Cell) : Prop where
  value : a.value = b.value
  formula : a.formula = b.formula

theorem Cell.SameContent.refl (cell : Cell) : cell.SameContent cell := ⟨rfl, rfl⟩

theorem Cell.SameContent.rel_refl (cell : Option Cell) :
    Option.Rel Cell.SameContent cell cell := by
  cases cell with
  | none => exact .none
  | some cell => exact .some (.refl cell)

theorem Cell.SameContent.withStyle_eq {a b : Cell} (h : a.SameContent b) (style : Nat) :
    a.withStyle style = b.withStyle style := by
  rw [withStyle, withStyle, h.value, h.formula]

/-- Expressions do not see styles. -/
theorem Cell.alike_withStyle (cell : Cell) (style : Nat) : cell.Alike (cell.withStyle style) :=
  ⟨rfl, rfl, rfl⟩

namespace Grid

/-- A grid with the default style in all cells. -/
def unstyled (g : Grid) : Grid := g.mapCells (·.withStyle 0)

theorem get?_unstyled (g : Grid) (place : Coord) :
    g.unstyled.get? place = (g.get? place).map (·.withStyle 0) :=
  g.get?_mapCells _ place

variable (g : Grid) (f : Cell → Cell)

theorem inRectangle_mapCells (a b : Coord) :
    (g.mapCells f).inRectangle a b = (g.inRectangle a b).map (Option.map f) := by
  simp only [inRectangle, get?_mapCells, List.map_flatMap, List.map_map, Function.comp_def]

theorem filter_toList_mapCells (p : Coord → Bool) :
    ((g.mapCells f).toList.filter fun entry => p entry.1) =
      (g.toList.filter fun entry => p entry.1).map fun (place, cell) => (place, f cell) := by
  rw [toList_mapCells, List.filter_map]
  rfl

theorem inColumns_mapCells (a b : Nat) :
    (g.mapCells f).inColumns a b = (g.inColumns a b).map f := by
  unfold inColumns
  rw [filter_toList_mapCells g f fun place => min a b ≤ place.col && place.col ≤ max a b]
  dsimp only
  rw [← List.map_mergeSort (r := fun p q : Coord × Cell =>
    p.1.col < q.1.col || (p.1.col == q.1.col && p.1.row ≤ q.1.row)) fun _ _ _ _ => rfl,
    List.map_map, List.map_map]
  rfl

theorem inRows_mapCells (a b : Nat) : (g.mapCells f).inRows a b = (g.inRows a b).map f := by
  unfold inRows
  rw [filter_toList_mapCells g f fun place => min a b ≤ place.row && place.row ≤ max a b,
    List.map_map, List.map_map]
  rfl

end Grid

/-! ## Scopes -/

namespace Scope

/-- A scope with the default style in all cells. -/
def unstyled (scope : Scope) : Scope where
  here := scope.here.unstyled
  sheet? := fun name => (scope.sheet? name).map Grid.unstyled

theorem grid?_unstyled (scope : Scope) (sheet : Option String) :
    scope.unstyled.grid? sheet = (scope.grid? sheet).map Grid.unstyled := by
  cases sheet <;> rfl

/-- Two scopes in which the same names stand for a sheet. -/
def SameNames (scope scope' : Scope) : Prop :=
  ∀ name, (scope.sheet? name).isSome = (scope'.sheet? name).isSome

/-- Single sheets have no names. -/
theorem sameNames_single (g g' : Grid) : (single g).SameNames (single g') := fun _ => rfl

theorem isSome_sheet?_ofSheets (here : Grid) (sheets : List (String × Grid)) (name : String) :
    ((ofSheets here sheets).sheet? name).isSome = true ↔
      toUpperText name ∈ sheets.map fun sheet => toUpperText sheet.1 := by
  unfold ofSheets
  dsimp only
  rw [List.lookup_isSome_iff]
  simp only [List.mem_reverse, List.mem_map, beq_iff_eq]
  constructor
  · rintro ⟨_, ⟨sheet, hsheet, rfl⟩, hname⟩
    exact ⟨sheet, hsheet, hname.symm⟩
  · rintro ⟨sheet, hsheet, hname⟩
    exact ⟨_, ⟨sheet, hsheet, rfl⟩, hname.symm⟩

/-- Sheets with the same names, case and order apart. -/
theorem sameNames_ofSheets {here here' : Grid} {sheets sheets' : List (String × Grid)}
    (h : ∀ key, key ∈ sheets.map (fun sheet => toUpperText sheet.1) ↔
      key ∈ sheets'.map fun sheet => toUpperText sheet.1) :
    (ofSheets here sheets).SameNames (ofSheets here' sheets') := fun name => by
  rw [Bool.eq_iff_iff, isSome_sheet?_ofSheets, isSome_sheet?_ofSheets, h]

end Scope

/-! ## Values -/

theorem AlikeCells.map {f : Cell → Cell} (hf : ∀ cell : Cell, cell.Alike (f cell))
    (cells : List (Option Cell)) : AlikeCells cells (cells.map (Option.map f)) where
  stored := by
    have hstored : (cells.map (Option.map f)).filterMap id = (cells.filterMap id).map f := by
      rw [List.filterMap_map, List.map_filterMap]
      rfl
    rw [hstored, List.forall₂_map_right_iff]
    exact List.forall₂_same.2 fun cell _ => hf cell
  single := by rw [List.length_map]

namespace Expr

variable {scope scope' : Scope} {e : Expr}

/-- A scope without styles is visited like the scope itself. -/
theorem visit?_unstyled (scope : Scope) (r : Expr) :
    r.visit? scope.unstyled = (r.visit? scope).map (·.map (Option.map (·.withStyle 0))) := by
  cases r with
  | cell sheet ref =>
    simp only [visit?, Scope.grid?_unstyled, Option.map_map]
    exact Option.map_congr fun g _ => congrArg ([·]) (g.get?_unstyled ref.place)
  | range sheet first last =>
    simp only [visit?, Scope.grid?_unstyled, Option.map_map]
    exact Option.map_congr fun g _ => g.inRectangle_mapCells _ first.place last.place
  | columns sheet first last =>
    simp only [visit?, Scope.grid?_unstyled, Option.map_map]
    refine Option.map_congr fun g _ => (congrArg (List.map some) (g.inColumns_mapCells ..)).trans ?_
    simp only [Function.comp_apply, List.map_map]
    rfl
  | rows sheet first last =>
    simp only [visit?, Scope.grid?_unstyled, Option.map_map]
    refine Option.map_congr fun g _ => (congrArg (List.map some) (g.inRows_mapCells ..)).trans ?_
    simp only [Function.comp_apply, List.map_map]
    rfl
  | _ => rfl

/-- An expression has the same value in a scope without styles. -/
theorem eval_unstyled (scope : Scope) (e : Expr) : e.eval scope.unstyled = e.eval scope := by
  have heval : (e.mapReferences id).eval scope.unstyled = e.eval scope := by
    refine eval_mapReferences fun r hr => ⟨isReference_of_mem_references hr, rfl, ?_⟩
    rw [id_eq, visit?_unstyled]
    cases r.visit? scope with
    | none => exact .none
    | some cells => exact .some (.map (·.alike_withStyle 0) cells)
  rw [← heval, mapReferences_id]

/-- An expression reads the values and formulas of the cells that its references cover, and which names
stand for sheets.  Where these are the same, so is its value. -/
theorem eval_reads_covered (hnames : scope.SameNames scope')
    (hcells : ∀ r ∈ e.references, ∀ g g', scope.grid? r.sheet? = some g →
      scope'.grid? r.sheet? = some g' → ∀ place, r.Covers place →
        Option.Rel Cell.SameContent (g.get? place) (g'.get? place)) :
    e.eval scope = e.eval scope' := by
  rw [← eval_unstyled scope, ← eval_unstyled scope']
  refine eval_congr fun r hr => visit?_congr ?_
  have hsome : (scope.grid? r.sheet?).isSome = (scope'.grid? r.sheet?).isSome := by
    cases r.sheet? with
    | none => rfl
    | some name => exact hnames name
  have hcovered := hcells r hr
  rw [Scope.grid?_unstyled, Scope.grid?_unstyled]
  generalize scope.grid? r.sheet? = seen at hsome hcovered ⊢
  generalize scope'.grid? r.sheet? = seen' at hsome hcovered ⊢
  match seen, seen', hsome with
  | none, none, _ => exact .none
  | some g, some g', _ =>
    refine .some fun place hplace => ?_
    rw [Grid.get?_unstyled, Grid.get?_unstyled]
    have hcell := hcovered g g' rfl rfl place hplace
    generalize g.get? place = cell at hcell ⊢
    generalize g'.get? place = cell' at hcell ⊢
    cases hcell with
    | none => rfl
    | some hcontent => exact congrArg some (hcontent.withStyle_eq 0)

/-- The amounts that a total is over: `A1:B2`. -/
def amountRange : Expr := .range none ⟨"A", 1, false, false⟩ ⟨"B", 2, false, false⟩

/-- `SUBTOTAL(9,A1:B2)*SUM(Rates!B:B)`: one of the two references is to another sheet. -/
def ratedTotal : Expr :=
  .binary .multiply (.call "SUBTOTAL" [.literal (.number 9), amountRange])
    (.call "SUM" [.columns (some "Rates") ⟨"B", false⟩ ⟨"B", false⟩])

/-- Amounts, of which the last is a subtotal. -/
def amountGrid : Grid :=
  (({} : Grid).set ⟨0, 0⟩ (.ofValue (.number 2))).set ⟨1, 0⟩
    { formula := some "=SUBTOTAL(9,A1:A1)", value := .number 2 }

/-- The amounts with one of them styled and another one written below them. -/
def editedAmounts : Grid :=
  (amountGrid.update ⟨0, 0⟩ (·.withStyle 5)).set ⟨2, 1⟩ (.ofValue (.number 7))

/-- A rate with its name in front of it. -/
def rateGrid : Grid :=
  (({} : Grid).set ⟨4, 0⟩ (.ofValue (.text "VAT"))).set ⟨4, 1⟩ (.ofValue (.number 3))

/-- The rate under another name. -/
def renamedRate : Grid := rateGrid.set ⟨4, 0⟩ (.ofValue (.text "Tax"))

theorem sameContent_editedAmounts {place : Coord} (h : amountRange.Covers place) :
    Option.Rel Cell.SameContent (amountGrid.get? place) (editedAmounts.get? place) := by
  have hout : place ≠ ⟨2, 1⟩ := by
    rintro rfl
    exact absurd h.1.2 (by decide)
  rw [editedAmounts, Grid.get?_set, if_neg hout, Grid.update, Grid.get?_set]
  split
  · next hplace =>
    have hamount : amountGrid.get? ⟨0, 0⟩ = some (.ofValue (.number 2)) := by
      simp [amountGrid, Grid.get?_set]
    rw [hplace, hamount]
    exact .some ⟨rfl, rfl⟩
  · exact Cell.SameContent.rel_refl _

theorem sameContent_renamedRate {place : Coord}
    (h : (columns (some "Rates") ⟨"B", false⟩ ⟨"B", false⟩).Covers place) :
    Option.Rel Cell.SameContent (rateGrid.get? place) (renamedRate.get? place) := by
  have hout : place ≠ ⟨4, 0⟩ := by
    rintro rfl
    exact absurd h.1 (by decide)
  rw [renamedRate, Grid.get?_set, if_neg hout]
  exact Cell.SameContent.rel_refl _

/-- The total reads neither styles nor the new amount nor the name of the rate, also where there is no
sheet with rates. -/
theorem eval_reads_covered_ratedTotal :
    ratedTotal.eval (.ofSheets amountGrid [("Rates", rateGrid)]) =
        ratedTotal.eval (.ofSheets editedAmounts [("RATES", renamedRate)]) ∧
      ratedTotal.eval (.single amountGrid) = ratedTotal.eval (.single editedAmounts) := by
  have hreferences : ratedTotal.references =
      [amountRange, .columns (some "Rates") ⟨"B", false⟩ ⟨"B", false⟩] := rfl
  have hkey : toUpperText "RATES" = toUpperText "Rates" := by decide +kernel
  constructor
  · have hrates : ∀ (here : Grid) (name : String) (rates : Grid),
        toUpperText name = toUpperText "Rates" →
          (Scope.ofSheets here [(name, rates)]).grid? (some "Rates") = some rates :=
      fun here name rates h => by simp [Scope.grid?, Scope.ofSheets, List.lookup, h]
    refine eval_reads_covered (Scope.sameNames_ofSheets fun key => by simp [hkey]) ?_
    intro r hr g g' hg hg' place hplace
    rw [hreferences, List.mem_pair] at hr
    rcases hr with rfl | rfl
    · obtain rfl : amountGrid = g := Option.some.inj hg
      obtain rfl : editedAmounts = g' := Option.some.inj hg'
      exact sameContent_editedAmounts hplace
    · obtain rfl := Option.some.inj ((hrates amountGrid "Rates" rateGrid rfl).symm.trans hg)
      obtain rfl := Option.some.inj ((hrates editedAmounts "RATES" renamedRate hkey).symm.trans hg')
      exact sameContent_renamedRate hplace
  · refine eval_reads_covered (Scope.sameNames_single _ _) fun r hr g g' hg hg' place hplace => ?_
    rw [hreferences, List.mem_pair] at hr
    rcases hr with rfl | rfl
    · obtain rfl : amountGrid = g := Option.some.inj hg
      obtain rfl : editedAmounts = g' := Option.some.inj hg'
      exact sameContent_editedAmounts hplace
    · cases hg

end Expr

end SheetPress
