import Mathlib
import SheetPress.Proofs.Checked.Arithmetic
import SheetPress.Proofs.Formula.Rescanning
import SheetPress.Proofs.Sheet.Removal

/-!
# Edits of formulas in checked arithmetic

Where rows are inserted or a line is deleted, the rows and columns of references are counted.  Rows
behind an insertion must still be machine numbers; behind a deletion they are no greater than before,
so that only the number of the deleted row, which references count from 1, must be one.

* `checkedShiftRowsForInsert_eq` — rows are inserted into a formula whose references fit.
* `Removal.checkedFormula_eq` — a line is deleted from a formula.
-/

namespace SheetPress

/-! ## Edits in general -/

/-- An edit that stops on no reference of a formula. -/
theorem editReferences_eq_pure {formula : String} {f : Reference → Checked (Option String)}
    {g : Reference → Option String}
    (h : ∀ source ref, .reference source ref ∈ piecesOf formula.toList → f ref = pure (g ref)) :
    editReferences f formula = pure (mapReferences g formula) := by
  rw [mapReferences_eq_flatMap, List.flatMap]
  refine editReferences_eq_ok_iff.2 ⟨_, rfl, ?_⟩
  rw [List.forall₂_map_right_iff, List.forall₂_same]
  intro piece hmem
  cases piece with
  | char c => rfl
  | reference source ref =>
    rw [Piece.edit, h source ref hmem, Piece.edited]
    cases g ref <;> rfl

/-! ## Inserting rows -/

/-- A cell reference after rows were inserted in front of row `firstMoved`, counted from 1. -/
def CellRef.checkedInsertRows (firstMoved count : Nat) (r : CellRef) : Checked CellRef :=
  if r.row ≥ firstMoved then do return { r with row := ← plus r.row count }
  else pure r

/-- The new text of a reference after rows were inserted, if it moves. -/
def Reference.checkedInsertRows? (firstMoved count : Nat) (r : Reference) :
    Checked (Option String) :=
  if r.qualified then pure none
  else do
    let first ← r.first.checkedInsertRows firstMoved count
    let last ← r.last.mapM (·.checkedInsertRows firstMoved count)
    let moved : Reference := ⟨first, last, r.qualified⟩
    return if moved = r then none else some moved.text

/-- A formula after `count` rows were inserted in front of a row. -/
def checkedShiftRowsForInsert (formula : String) (start count : Nat) : Checked String := do
  let firstMoved ← plus start 1
  editReferences (·.checkedInsertRows? firstMoved count) formula

section Insertion

variable {start count : Nat}

theorem CellRef.checkedInsertRows_eq {a : CellRef} (h : a.row + count < indexLimit) :
    a.checkedInsertRows (start + 1) count = pure (a.insertRows start count) := by
  unfold checkedInsertRows insertRows shiftedRow
  split
  · rw [plus_eq h, pure_bind]
  · rfl

theorem Reference.checkedInsertRows?_eq {r : Reference}
    (h : r.qualified = false →
      ∀ corner ∈ r.first :: r.last.toList, corner.row + count < indexLimit) :
    r.checkedInsertRows? (start + 1) count = pure (r.insertRows? start count) := by
  obtain ⟨first, last, qualified⟩ := r
  unfold checkedInsertRows? insertRows?
  cases qualified with
  | true => rfl
  | false =>
    have hfirst : first.checkedInsertRows (start + 1) count = pure (first.insertRows start count) :=
      CellRef.checkedInsertRows_eq (h rfl first (List.mem_cons_self ..))
    have hlast : last.mapM (·.checkedInsertRows (start + 1) count) =
        pure (last.map (·.insertRows start count)) :=
      mapM_option_eq_pure fun corner hcorner => CellRef.checkedInsertRows_eq
        (h rfl corner (List.mem_cons_of_mem _ (Option.mem_toList.2 hcorner)))
    simp only [hfirst, hlast, pure_bind]
    simp

/-- The references of a formula to its own sheet still have machine numbers for rows behind `count`
more. -/
def ReferencesFit (count : Nat) (formula : String) : Prop :=
  ∀ source ref, .reference source ref ∈ piecesOf formula.toList → ref.qualified = false →
    ∀ corner ∈ ref.first :: ref.last.toList, corner.row + count < indexLimit

/-- Rows are inserted into a formula without stopping if its references fit. -/
theorem checkedShiftRowsForInsert_eq {formula : String} (h : ReferencesFit count formula)
    (hstart : start + 1 < indexLimit) :
    checkedShiftRowsForInsert formula start count = pure (shiftRowsForInsert formula start count) := by
  rw [checkedShiftRowsForInsert, plus_eq hstart, pure_bind, shiftRowsForInsert]
  exact editReferences_eq_pure fun source ref hmem =>
    Reference.checkedInsertRows?_eq (h source ref hmem)

end Insertion

/-! ## Deleting a row or a column -/

/-- The span between two lines, in either order, after a line was deleted. -/
def checkedRemoveFromSpan (removed first last : Nat) : Checked SpanChange :=
  if removed > max first last then pure .kept
  else if first = removed ∧ last = removed then pure .gone
  else if removed < min first last then do return .moved (← minus first 1) (← minus last 1)
  else if first > last then do return .moved (← minus first 1) last
  else do return .moved first (← minus last 1)

theorem checkedRemoveFromSpan_eq (removed first last : Nat) :
    checkedRemoveFromSpan removed first last = pure (removeFromSpan removed first last) := by
  unfold checkedRemoveFromSpan removeFromSpan
  split_ifs with hkept hgone hmoved hfirst
  · rfl
  · rfl
  · rw [minus_eq (by omega), minus_eq (by omega), pure_bind, pure_bind]
  · rw [minus_eq (by omega), pure_bind]
  · rw [minus_eq (by omega), pure_bind]

namespace Removal

/-- The number of the deleted line as references count: rows from 1, columns from 0. -/
def checkedRemoved : Removal → Checked Nat
  | row removed => plus removed 1
  | column removed => pure removed

/-- The line of a corner, if a sheet has it. -/
def checkedLine? : Removal → CellRef → Checked (Option Nat)
  | row _, a => pure (some a.row)
  | column _, a => checkedColumn? a.column.toList

/-- A corner moved to another line. -/
def checkedWithLine : Removal → CellRef → Nat → Checked CellRef
  | row _, a, line => pure { a with row := line }
  | column _, a, line => do return { a with column := ← checkedColumnName line }

/-- The new text of a reference, if it moves. -/
def checkedEdit (k : Removal) (removed : Nat) (r : Reference) : Checked (Option String) :=
  if r.qualified then pure none
  else do
    match ← k.checkedLine? r.first, ← k.checkedLine? (r.last.getD r.first) with
    | some first, some last =>
      match ← checkedRemoveFromSpan removed first last with
      | .kept => return none
      | .gone => return some referenceErrorText
      | .moved first last =>
        let a ← k.checkedWithLine r.first first
        let b ← r.last.mapM (k.checkedWithLine · last)
        return some (Reference.text ⟨a, b, false⟩)
    | _, _ => return none

/-- The text of a formula afterwards. -/
def checkedFormula (k : Removal) (formula : String) : Checked String := do
  let removed ← k.checkedRemoved
  editReferences (k.checkedEdit removed) formula

variable (k : Removal)

theorem checkedLine?_eq (a : CellRef) :
    k.checkedLine? a = pure (if k.Reaches a then some (k.line a) else none) := by
  cases k with
  | row removed => rfl
  | column removed =>
    rw [checkedLine?, checkedColumn?_eq]
    unfold Reaches line CellRef.columnIndex? parseColumn?
    dsimp only
    congr 1
    split
    · split <;> simp
    · simp

theorem checkedWithLine_eq (a : CellRef) (line : Nat) :
    k.checkedWithLine a line = pure (k.withLine a line) := by
  cases k with
  | row removed => rfl
  | column removed =>
    rw [checkedWithLine, checkedColumnName_eq, pure_bind]
    rfl

/-- What a deletion writes in the place of a reference, if it moves. -/
def replacement? (r : Reference) : Option Replacement :=
  if r.qualified ∨ ¬ (k.Reaches r.first ∧ k.Reaches (r.last.getD r.first)) then none
  else
    match removeFromSpan k.removed (k.line r.first) (k.line (r.last.getD r.first)) with
    | .kept => none
    | .gone => some .lost
    | .moved first last =>
      some (.reference ⟨k.withLine r.first first, r.last.map (k.withLine · last), false⟩)

theorem edit_eq_replacement (r : Reference) : k.edit r = (k.replacement? r).map Replacement.text := by
  obtain ⟨first, last, qualified⟩ := r
  unfold replacement?
  cases qualified with
  | true => cases k <;> rfl
  | false =>
    dsimp only
    by_cases hreaches : k.Reaches first ∧ k.Reaches (last.getD first)
    · rw [if_neg (by simp [hreaches]), edit_eq hreaches.1 hreaches.2]
      cases removeFromSpan k.removed (k.line first) (k.line (last.getD first)) <;> rfl
    · rw [if_pos (.inr hreaches)]
      cases k with
      | row removed => exact absurd ⟨trivial, trivial⟩ hreaches
      | column removed =>
        have hnone : first.columnIndex? = none ∨ (last.getD first).columnIndex? = none := by
          rw [← Option.not_isSome_iff_eq_none, ← Option.not_isSome_iff_eq_none, ← not_and_or]
          exact hreaches
        show Reference.removeCol? removed _ = none
        unfold Reference.removeCol?
        dsimp only
        rcases hnone with hnone | hnone <;> rw [hnone]
        · rfl
        · cases first.columnIndex? <;> rfl

theorem checkedEdit_eq (r : Reference) : k.checkedEdit k.removed r = pure (k.edit r) := by
  rw [edit_eq_replacement]
  obtain ⟨first, last, qualified⟩ := r
  unfold checkedEdit replacement?
  have hlast (line : Nat) :
      last.mapM (k.checkedWithLine · line) = pure (last.map (k.withLine · line)) :=
    mapM_option_eq_pure fun corner _ => k.checkedWithLine_eq corner line
  cases qualified with
  | true => rfl
  | false =>
    rw [if_neg Bool.false_ne_true]
    simp only [checkedLine?_eq, pure_bind]
    by_cases hreaches : k.Reaches first ∧ k.Reaches (last.getD first)
    · rw [if_pos hreaches.1, if_pos hreaches.2, if_neg (by simp [hreaches])]
      simp only [checkedRemoveFromSpan_eq, pure_bind]
      cases removeFromSpan k.removed (k.line first) (k.line (last.getD first)) with
      | kept => rfl
      | gone => rfl
      | moved first' last' =>
        simp only [hlast, k.checkedWithLine_eq first, pure_bind]
        rfl
    · have hkept : false = true ∨ ¬ (k.Reaches first ∧ k.Reaches (last.getD first)) := .inr hreaches
      rw [if_pos hkept]
      rcases not_and_or.1 hreaches with hnone | hnone
      · rw [if_neg hnone]
        rfl
      · rw [if_neg hnone]
        split
        · next heq => cases heq
        · rfl

/-- A line is deleted from a formula without stopping if its number is a machine number. -/
theorem checkedFormula_eq (hremoved : k.removed < indexLimit) (formula : String) :
    k.checkedFormula formula = pure (k.formula formula) := by
  have hcount : k.checkedRemoved = pure k.removed := by
    cases k with
    | row removed => exact plus_eq hremoved
    | column removed => rfl
  rw [checkedFormula, hcount, pure_bind, k.formula_eq]
  exact editReferences_eq_pure fun source ref _ => k.checkedEdit_eq ref

end Removal

end SheetPress
