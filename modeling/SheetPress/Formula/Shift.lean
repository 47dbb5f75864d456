import SheetPress.Formula.Reference

/-!
# Formulas under edits of their sheet

When rows are inserted, or a row or a column is deleted, the references of a formula follow the cells
that they name. Dollar signs make no difference to that. References to other sheets stay as they
are.
-/

namespace SheetPress

/-- What is written in place of a reference whose cells are gone. -/
def referenceErrorText : String := CellError.reference.code

/-! ## Inserting rows -/

/-- A row, counted from 1, after `count` rows were inserted in front of row `at` (counted from 0). -/
def shiftedRow (start count row : Nat) : Nat := if row ≥ start + 1 then row + count else row

/-- A cell reference after rows were inserted. -/
def CellRef.insertRows (start count : Nat) (r : CellRef) : CellRef :=
  { r with row := shiftedRow start count r.row }

/-- The new text of a reference after rows were inserted, if it moves. -/
def Reference.insertRows? (start count : Nat) (r : Reference) : Option String :=
  let moved : Reference :=
    ⟨r.first.insertRows start count, r.last.map (·.insertRows start count), r.qualified⟩
  if r.qualified ∨ moved = r then none else some moved.text

/-- A formula after `count` rows were inserted in front of a row. -/
def shiftRowsForInsert (formula : String) (start count : Nat) : String :=
  mapReferences (·.insertRows? start count) formula

/-! ## Deleting a row or a column -/

/-- What the deletion of a line does to the span between two others. -/
inductive SpanChange where
  | kept
  | gone
  | moved (first last : Nat)
  deriving DecidableEq, Repr

/-- The span between two lines, in either order, after a line was deleted: it keeps its place in
front of that line, moves up behind it, and loses one line around it. -/
def removeFromSpan (removed first last : Nat) : SpanChange :=
  if removed > max first last then .kept
  else if first = removed ∧ last = removed then .gone
  else if removed < min first last then .moved (first - 1) (last - 1)
  else if first > last then .moved (first - 1) last
  else .moved first (last - 1)

/-- The new text of a reference after the row `removed`, counted from 1, was deleted. -/
def Reference.removeRow? (removed : Nat) (r : Reference) : Option String :=
  if r.qualified then none
  else
    match removeFromSpan removed r.first.row (r.last.getD r.first).row with
    | .kept => none
    | .gone => some referenceErrorText
    | .moved first last =>
      some (Reference.text
        ⟨{ r.first with row := first }, r.last.map ({ · with row := last }), false⟩)

/-- A formula after a row, counted from 0, was deleted. -/
def shiftRowsForRemove (formula : String) (removed : Nat) : String :=
  mapReferences (·.removeRow? (removed + 1)) formula

/-- The new text of a reference after a column was deleted. A reference with a column that no sheet
has is left alone. -/
def Reference.removeCol? (removed : Nat) (r : Reference) : Option String :=
  if r.qualified then none
  else
    match r.first.columnIndex?, (r.last.getD r.first).columnIndex? with
    | some firstCol, some lastCol =>
      match removeFromSpan removed firstCol lastCol with
      | .kept => none
      | .gone => some referenceErrorText
      | .moved first last =>
        some (Reference.text ⟨r.first.withColumn first, r.last.map (·.withColumn last), false⟩)
    | _, _ => none

/-- A formula after a column was deleted. -/
def shiftColsForRemove (formula : String) (removed : Nat) : String :=
  mapReferences (·.removeCol? removed) formula

end SheetPress
