import Mathlib
import SheetPress.Proofs.Evaluation.Covered
import SheetPress.Sheet.Recalculation

/-!
# Formula cells that depend on each other

The cells of a workbook are addressed by the number of their sheet and their place.  A formula cell
depends on the formula cells that the references of its formula cover.  Where no formula cell depends
on itself, not even through others, each has a height: the number of formula cells it depends on.

* `Workbook.formulaValue_congr` — the value of a formula is settled by the cells that it covers.
* `Workbook.height_lt_of_dependsOn` — the height falls along every dependency.
* `Workbook.height_lt_formulaCount` — a height is smaller than the number of formula cells.
-/

namespace SheetPress

/-- The address of a cell in a workbook. -/
structure CellAddress where
  sheet : Nat
  place : Coord
  deriving DecidableEq, Repr

namespace Workbook

/-- The cell stored at an address. -/
def cellAt? (b : Workbook) (p : CellAddress) : Option Cell :=
  b.sheets[p.sheet]?.bind (·.cell? p.place)

/-- Whether a formula cell is stored at an address. -/
def HoldsFormula (b : Workbook) (p : CellAddress) : Prop :=
  ∃ cell, b.cellAt? p = some cell ∧ cell.hasFormula = true

theorem exists_of_cellAt?_eq_some {b : Workbook} {p : CellAddress} {cell : Cell}
    (h : b.cellAt? p = some cell) :
    ∃ sheet, b.sheets[p.sheet]? = some sheet ∧ sheet.cell? p.place = some cell :=
  Option.bind_eq_some_iff.1 h

theorem cellAt?_eq {b : Workbook} {p : CellAddress} {sheet : Worksheet}
    (h : b.sheets[p.sheet]? = some sheet) : b.cellAt? p = sheet.cell? p.place := by
  rw [cellAt?, h, Option.bind_some]

end Workbook

/-! ## Sheets by name -/

/-- The number of the sheet that a name stands for: case does not count, and of two equal names the
last one does. -/
def sheetNumber? (names : List String) (name : String) : Option Nat :=
  (names.zipIdx.reverse.find? fun entry => toUpperText entry.1 == toUpperText name).map (·.2)

/-- The number of the sheet that a reference is to, if it stands in sheet `i`. -/
def referredSheet? (names : List String) (i : Nat) : Option String → Option Nat
  | none => some i
  | some name => sheetNumber? names name

theorem lookup_map {α β γ : Type} [BEq β] [LawfulBEq β] (key : α → β) (value : α → γ) (k : β)
    (l : List α) : (l.map fun a => (key a, value a)).lookup k =
      (l.find? fun a => key a == k).map value := by
  induction l with
  | nil => rfl
  | cons a l ih =>
    rw [List.map_cons, List.lookup_cons, List.find?_cons, ih, BEq.comm]
    cases key a == k <;> rfl

namespace Workbook

variable {b b' : Workbook}

/-- The sheet that a name stands for, with its number. -/
def namedSheet? (b : Workbook) (name : String) : Option (Worksheet × Nat) :=
  b.sheets.zipIdx.reverse.find? fun entry => toUpperText entry.1.name == toUpperText name

theorem sheetNumber?_sheetNames (b : Workbook) (name : String) :
    sheetNumber? b.sheetNames name = (b.namedSheet? name).map (·.2) := by
  rw [sheetNumber?, sheetNames, List.zipIdx_map, ← List.map_reverse, List.find?_map,
    Option.map_map]
  rfl

theorem sheet?_scopeOf (b : Workbook) (sheet : Worksheet) (name : String) :
    (b.scopeOf sheet).sheet? name = (b.namedSheet? name).map fun entry => entry.1.grid := by
  rw [scopeOf, Scope.ofSheets]
  dsimp only
  rw [List.map_map, ← List.map_reverse]
  refine (lookup_map (fun s : Worksheet => toUpperText s.name) (·.grid) _ _).trans ?_
  conv_lhs => rw [← List.zipIdx_map_fst 0 b.sheets]
  rw [← List.map_reverse, List.find?_map, Option.map_map]
  rfl

/-- The scope of a sheet names the sheets of the workbook by their numbers. -/
theorem grid?_scopeOf {sheet : Worksheet} {i : Nat} (hsheet : b.sheets[i]? = some sheet)
    (name : Option String) :
    (b.scopeOf sheet).grid? name =
      (referredSheet? b.sheetNames i name).bind fun j => b.sheets[j]?.map (·.grid) := by
  cases name with
  | none => rw [referredSheet?, Option.bind_some, hsheet]; rfl
  | some name =>
    rw [Scope.grid?, sheet?_scopeOf, referredSheet?, sheetNumber?_sheetNames]
    cases hentry : b.namedSheet? name with
    | none => rfl
    | some entry =>
      have hmem := List.mem_of_find?_eq_some hentry
      rw [List.mem_reverse, List.mem_zipIdx_iff_getElem?] at hmem
      simp only [Option.map_some, Option.bind_some, hmem]

/-! ## What a formula reads -/

/-- Whether a formula in sheet `i` covers an address by one of its references. -/
def Covers (b : Workbook) (i : Nat) (formula : String) (q : CellAddress) : Prop :=
  ∃ e, parseFormula formula = .ok e ∧ ∃ r ∈ e.references,
    referredSheet? b.sheetNames i r.sheet? = some q.sheet ∧ r.Covers q.place

/-- The value of a formula is settled by the cells that it covers. -/
theorem formulaValue_congr (hnames : b.sheetNames = b'.sheetNames) {i : Nat}
    {sheet sheet' : Worksheet} (hsheet : b.sheets[i]? = some sheet)
    (hsheet' : b'.sheets[i]? = some sheet') {formula : String}
    (h : ∀ q, b.Covers i formula q → b.cellAt? q = b'.cellAt? q) :
    formulaValue (b.scopeOf sheet) formula = formulaValue (b'.scopeOf sheet') formula := by
  unfold formulaValue
  cases hparse : parseFormula formula with
  | error => rfl
  | ok e =>
    refine congrArg Value.toCell (Expr.eval_congr fun r hr => Expr.visit?_congr ?_)
    rw [grid?_scopeOf hsheet, grid?_scopeOf hsheet', ← hnames]
    cases hj : referredSheet? b.sheetNames i r.sheet? with
    | none => exact .none
    | some j =>
      have hlength : b.sheets.length = b'.sheets.length := by
        simpa [sheetNames] using congrArg List.length hnames
      have hcells : ∀ place, r.Covers place → b.cellAt? ⟨j, place⟩ = b'.cellAt? ⟨j, place⟩ :=
        fun place hplace => h ⟨j, place⟩ ⟨e, hparse, r, hr, hj, hplace⟩
      rw [Option.bind_some, Option.bind_some]
      cases hs : b.sheets[j]? with
      | none =>
        rw [List.getElem?_eq_none_iff, hlength, ← List.getElem?_eq_none_iff] at hs
        rw [hs]
        exact .none
      | some s =>
        obtain ⟨hlt, -⟩ := List.getElem?_eq_some_iff.1 hs
        rw [hlength] at hlt
        have hs' : b'.sheets[j]? = some b'.sheets[j] := List.getElem?_eq_getElem hlt
        rw [hs']
        refine .some fun place hplace => ?_
        have hcell := hcells place hplace
        rwa [cellAt?_eq hs, cellAt?_eq hs'] at hcell

/-! ## Dependencies -/

/-- A formula cell depends on the formula cells that its formula covers. -/
def DependsOn (b : Workbook) (p q : CellAddress) : Prop :=
  b.HoldsFormula q ∧
    ∃ cell formula, b.cellAt? p = some cell ∧ cell.formula = some formula ∧
      b.Covers p.sheet formula q

/-- No formula cell depends on itself, not even through others. -/
def Acyclic (b : Workbook) : Prop := ∀ p, ¬ Relation.TransGen b.DependsOn p p

/-- The addresses of the formula cells, sheet by sheet. -/
def formulaCells (b : Workbook) : List CellAddress :=
  b.sheets.zipIdx.flatMap fun entry =>
    (entry.1.grid.toList.filter fun stored => stored.2.hasFormula).map fun stored =>
      ⟨entry.2, stored.1⟩

theorem mem_formulaCells {p : CellAddress} : p ∈ b.formulaCells ↔ b.HoldsFormula p := by
  simp only [formulaCells, List.mem_flatMap, List.mem_map, List.mem_filter, Prod.exists,
    List.mem_zipIdx_iff_getElem?]
  constructor
  · rintro ⟨sheet, i, hsheet, place, cell, ⟨hmem, hformula⟩, rfl⟩
    exact ⟨cell, (cellAt?_eq hsheet).trans (Grid.mem_toList.1 hmem), hformula⟩
  · rintro ⟨cell, hcell, hformula⟩
    obtain ⟨sheet, hsheet, hget⟩ := exists_of_cellAt?_eq_some hcell
    exact ⟨sheet, p.sheet, hsheet, p.place, cell, ⟨Grid.mem_toList.2 hget, hformula⟩, rfl⟩

theorem length_formulaCells (b : Workbook) : b.formulaCells.length = b.formulaCount := by
  have hsum : ∀ (sheets : List Worksheet) (n : Nat),
      ((sheets.zipIdx n).flatMap fun entry =>
        (entry.1.grid.toList.filter fun stored => stored.2.hasFormula).map fun stored =>
          (⟨entry.2, stored.1⟩ : CellAddress)).length =
        (sheets.flatMap (·.grid.toList)).countP fun stored => stored.2.hasFormula := by
    intro sheets
    induction sheets with
    | nil => intro n; rfl
    | cons sheet sheets ih =>
      intro n
      rw [List.zipIdx_cons, List.flatMap_cons, List.flatMap_cons, List.length_append, ih,
        List.countP_append, List.length_map, ← List.countP_eq_length_filter]
  exact hsum b.sheets 0

theorem nodup_formulaCells (b : Workbook) : b.formulaCells.Nodup := by
  rw [formulaCells, List.nodup_flatMap]
  constructor
  · rintro ⟨sheet, i⟩ -
    refine List.Pairwise.map _ (fun a b hab heq => ?_) (sheet.grid.sorted_toList.filter _)
    rw [(CellAddress.mk.inj heq).2] at hab
    simp at hab
  · have hnumbers : (b.sheets.zipIdx.map (·.2)).Nodup := by
      rw [List.zipIdx_map_snd]
      exact List.nodup_range'
    refine (List.pairwise_map.1 hnumbers).imp fun {a b} hab => ?_
    rw [Function.onFun, List.disjoint_left]
    intro p hp hq
    simp only [List.mem_map] at hp hq
    obtain ⟨_, _, rfl⟩ := hp
    obtain ⟨_, _, heq⟩ := hq
    exact hab (CellAddress.mk.inj heq).1.symm

/-! ## Heights -/

open Classical in
/-- The number of formula cells that a cell depends on, directly or through others. -/
noncomputable def height (b : Workbook) (p : CellAddress) : Nat :=
  (b.formulaCells.toFinset.filter fun q => Relation.TransGen b.DependsOn p q).card

theorem height_lt_of_dependsOn (hacyclic : b.Acyclic) {p q : CellAddress} (h : b.DependsOn p q) :
    b.height q < b.height p := by
  classical
  refine Finset.card_lt_card (Finset.ssubset_iff_subset_ne.2 ⟨fun r hr => ?_, fun heq => ?_⟩)
  · rw [Finset.mem_filter] at hr ⊢
    exact ⟨hr.1, .head h hr.2⟩
  · have hq : q ∈ b.formulaCells.toFinset.filter fun r => Relation.TransGen b.DependsOn p r :=
      Finset.mem_filter.2 ⟨List.mem_toFinset.2 (mem_formulaCells.2 h.1), .single h⟩
    rw [← heq, Finset.mem_filter] at hq
    exact hacyclic q hq.2

theorem height_lt_formulaCount (hacyclic : b.Acyclic) {p : CellAddress} (hp : b.HoldsFormula p) :
    b.height p < b.formulaCount := by
  classical
  have hmem : p ∈ b.formulaCells.toFinset := List.mem_toFinset.2 (mem_formulaCells.2 hp)
  have hlt : b.height p < b.formulaCells.toFinset.card := by
    refine Finset.card_lt_card (Finset.ssubset_iff_subset_ne.2
      ⟨Finset.filter_subset _ _, fun heq => ?_⟩)
    rw [← heq, Finset.mem_filter] at hmem
    exact hacyclic p hmem.2
  rw [← length_formulaCells]
  exact hlt.trans_le (List.toFinset_card_le _)

end Workbook

end SheetPress
