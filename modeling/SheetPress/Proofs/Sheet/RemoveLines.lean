import Mathlib
import SheetPress.Proofs.Checked.Edits
import SheetPress.Proofs.Formula.Printing

/-!
# Deleting a row or a column

Deleting a line moves the cells behind it and rewrites the text of all formulas.  Both go together:
every reference that does not lie in the deleted line visits the cells that it visited before, less
those that are gone.

* `editedTo_remove` — the edited text of a reference is that of the reference afterwards.
* `Worksheet.references_remove` — the formulas that are left parse, and their references keep to
  their cells.
-/

namespace SheetPress

section References

variable {k : Removal} {r : Expr}

/-! ## The text of references -/

theorem CellRef.toList_column_withColumn (a : CellRef) (col : Nat) :
    (a.withColumn col).column.toList = columnLetters col := String.toList_ofList

/-- A corner that moves can be written. -/
theorem Removal.written_withLine {a : CellRef} (ha : a.Written) {line : Nat}
    (hpos : 0 < line ∨ ∃ c, k = .column c) (hle : line ≤ k.line a) : (k.withLine a line).Written := by
  cases k with
  | row removed =>
    refine ⟨ha.column_ne_nil, ha.isUpper, ?_, hle.trans_lt ha.row_lt⟩
    rcases hpos with hpos | ⟨c, hc⟩
    · exact hpos
    · cases hc
  | column removed =>
    have hcolumn := a.toList_column_withColumn line
    exact ⟨hcolumn ▸ columnLetters_ne_nil line,
      fun c hc => isUpper_of_mem_columnLetters c (hcolumn ▸ hc), ha.row_pos, ha.row_lt⟩

theorem Removal.corners_eq_of_moved {a b : CellRef} {first last : Nat}
    (h : removeFromSpan k.removed (k.line a) (k.line b) = .moved first last) :
    k.corners a b = (k.withLine a first, k.withLine b last) := by
  rw [Removal.corners, h]

theorem Removal.corners_eq_of_kept {a b : CellRef}
    (h : removeFromSpan k.removed (k.line a) (k.line b) = .kept) : k.corners a b = (a, b) := by
  rw [Removal.corners, h]

/-- The corners of a reference that moves can be written. -/
theorem Removal.written_of_moved {a b : CellRef} (ha : a.Written) (hb : b.Written)
    (hleaves : k.Leaves a b) {first last : Nat}
    (h : removeFromSpan k.removed (k.line a) (k.line b) = .moved first last) :
    (k.withLine a first).Written ∧ (k.withLine b last).Written := by
  have hspan : spanAfter k.removed (k.line a) (k.line b) = (first, last) := by rw [spanAfter, h]
  have hle := spanAfter_le hleaves
  rw [hspan] at hle
  have hpos : (0 < first ∧ 0 < last) ∨ ∃ c, k = .column c := by
    cases k with
    | row removed =>
      have := spanAfter_pos hleaves (Nat.succ_pos removed) ha.row_pos hb.row_pos
      rw [hspan] at this
      exact Or.inl this
    | column removed => exact Or.inr ⟨removed, rfl⟩
  exact ⟨written_withLine ha (hpos.imp_left And.left) hle.1,
    written_withLine hb (hpos.imp_left And.right) hle.2⟩

/-- The edit of the text gives a reference the text of the reference afterwards. -/
theorem editedTo_remove (h : r.Survives k) (hwritten : r.Written) :
    EditedTo k.edit r (r.remove k) := by
  match r, h, hwritten with
  | .cell none a, ⟨hreaches, hleaves⟩, hwritten =>
    have hedit := @Removal.edit_eq k a none hreaches hreaches
    rw [Option.getD_none] at hedit
    cases hspan : removeFromSpan k.removed (k.line a) (k.line a) with
    | gone => exact absurd (both_of_gone hspan) hleaves
    | kept =>
      rw [hspan] at hedit
      refine ⟨⟨a, none, false⟩, ⟨hwritten, by simp⟩, ?_, Or.inr ⟨hedit, rfl⟩⟩
      rw [Expr.remove, Removal.corners_eq_of_kept hspan]
      rfl
    | moved first last =>
      rw [hspan] at hedit
      refine ⟨⟨k.withLine a first, none, false⟩,
        ⟨(Removal.written_of_moved hwritten hwritten hleaves hspan).1, by simp⟩, ?_, Or.inl hedit⟩
      rw [Expr.remove, Removal.corners_eq_of_moved hspan]
      rfl
  | .range none a b, ⟨hreaches, hreaches', hleaves⟩, hwritten =>
    have hedit := @Removal.edit_eq k a (some b) hreaches hreaches'
    rw [Option.getD_some] at hedit
    cases hspan : removeFromSpan k.removed (k.line a) (k.line b) with
    | gone => exact absurd (both_of_gone hspan) hleaves
    | kept =>
      rw [hspan] at hedit
      refine ⟨⟨a, some b, false⟩, ⟨hwritten.1, by simpa using hwritten.2⟩, ?_, Or.inr ⟨hedit, rfl⟩⟩
      rw [Expr.remove, Removal.corners_eq_of_kept hspan]
      rfl
    | moved first last =>
      rw [hspan] at hedit
      obtain ⟨hfirst, hlast⟩ := Removal.written_of_moved hwritten.1 hwritten.2 hleaves hspan
      refine ⟨⟨k.withLine a first, some (k.withLine b last), false⟩,
        ⟨hfirst, by simpa using hlast⟩, ?_, Or.inl hedit⟩
      rw [Expr.remove, Removal.corners_eq_of_moved hspan]
      rfl
  | .columns none a b, _, _ => rfl
  | .rows none a b, _, _ => rfl

/-! ## Formulas -/

/-- A formula that a deletion leaves on its cells: it parses, is written in capitals without blanks
outside of its quotes, and all of its references survive. -/
structure FollowsRemoval (k : Removal) (formula : String) (e : Expr) : Prop where
  parses : parseFormula formula = .ok e
  isBlank : ∀ c ∈ outsideQuotes none formula.toList, isBlank c = false
  isLower : ∀ c ∈ outsideQuotes none formula.toList, c.isLower = false
  references : ∀ r ∈ e.references, r.Survives k

/-- The rewritten text of a formula parses as the expression with its references afterwards. -/
theorem FollowsRemoval.parseFormula_formula {formula : String} {e : Expr}
    (h : FollowsRemoval k formula e) :
    parseFormula (k.formula formula) = .ok (e.mapReferences (Expr.remove k)) := by
  rw [k.formula_eq]
  exact parseFormula_mapReferences h.parses h.isBlank h.isLower fun r hr =>
    editedTo_remove (h.references r hr) (written_of_parseFormula h.parses r hr)

/-- A reference keeps to its cells: it is replaced by one of the same kind that visits, in the new
sheet, the stored cells that it visited before, in the same order and at the places that they have
moved to, less those of the line. -/
structure KeepsCells (k : Removal) (w : Worksheet) (r r' : Expr) : Prop where
  sameKind : SameKind r r'
  before : (r.visit? (.single w.grid)).map (·.filterMap id) = some ((r.found w.grid).map (·.2))
  after : (r'.visit? (.single (k.sheet w).grid)).map (·.filterMap id) =
    some ((r'.found (k.sheet w).grid).map (·.2))
  found : r'.found (k.sheet w).grid = (r.found w.grid).filterMap k.placed?
  contents : ((r'.found (k.sheet w).grid).map fun entry => (entry.2.value, entry.2.style)) =
    ((r.found w.grid).filter fun entry => (k.place? entry.1).isSome).map
      fun entry => (entry.2.value, entry.2.style)

theorem keepsCells_remove (w : Worksheet) (h : r.Survives k) (hwritten : r.Written) :
    KeepsCells k w r (r.remove k) where
  sameKind := h.sameKind
  before := r.visit?_eq_found w.grid h.isLocal
  after := (r.remove k).visit?_eq_found (k.sheet w).grid (h.sameKind.isLocal h.isLocal)
  found := Expr.found_remove w h hwritten
  contents := by rw [Expr.found_remove w h hwritten, k.map_filterMap_placed?]

end References

/-- The formula `=SUM($D2:B$3)-AB7`. -/
def spanDifference : FormulaTree :=
  .binary .subtract
    (.call ⟨"SUM", ⟨_, _, rfl, by decide⟩, forall_mem_of_all (by decide),
        forall_mem_of_all (by decide), by decide⟩
      [.range none
        ⟨⟨"D", 2, true, false⟩, by decide, forall_mem_of_all (by decide), by decide, by decide⟩
        ⟨⟨"B", 3, false, true⟩, by decide, forall_mem_of_all (by decide), by decide, by decide⟩])
    (.cell none
      ⟨⟨"AB", 7, false, false⟩, by decide, forall_mem_of_all (by decide), by decide, by decide⟩)

/-- A sheet with that formula behind the cells that it sums. -/
def spanSheet : Worksheet where
  name := "Sheet1"
  grid := (((({} : Grid).set ⟨0, 5⟩ { formula := some "=SUM($D2:B$3)-AB7" }).set ⟨1, 1⟩
    (.ofValue (.number 2.0))).set ⟨2, 3⟩ (.ofValue (.number 3.0))).set ⟨6, 27⟩
    (.ofValue (.text "total"))

theorem followsRemoval_spanDifference :
    FollowsRemoval (.column 1) "=SUM($D2:B$3)-AB7" spanDifference.expr where
  parses := spanDifference.spells.parseFormula_eq.2
  isBlank := forall_mem_of_all (by decide +kernel)
  isLower := forall_mem_of_all (by decide +kernel)
  references := by
    intro r hr
    have hreferences : spanDifference.expr.references =
        [.range none ⟨"D", 2, true, false⟩ ⟨"B", 3, false, true⟩,
          .cell none ⟨"AB", 7, false, false⟩] := rfl
    rw [hreferences] at hr
    simp only [List.mem_cons, List.not_mem_nil, or_false] at hr
    rcases hr with rfl | rfl
    · exact ⟨by decide, by decide, by decide⟩
    · exact ⟨by decide, by decide⟩

end SheetPress
