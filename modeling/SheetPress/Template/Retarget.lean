import SheetPress.Formula.Reference
import SheetPress.Template.Error

/-!
# Replaying formulas on other rows

The formula of a sample row is written again on every row of the table. All its references go to
that row, and their columns move by a fixed distance.
-/

namespace SheetPress

/-- A cell reference on another row, its column moved. -/
def CellRef.retarget (row : Nat) (shift : Int) (r : CellRef) : Except TemplateError CellRef :=
  match r.columnIndex? with
  | none => .error (.invalidColumn r.column)
  | some col =>
    let moved := Int.ofNat col + shift
    if moved < 0 ∨ moved ≥ Int.ofNat maxColumns then .error (.columnOutOfRange r.column shift)
    else .ok { r.withColumn moved.toNat with row }

/-- A reference on another row, its columns moved. -/
def Reference.retarget (row : Nat) (shift : Int) (r : Reference) :
    Except TemplateError Reference := do
  let first ← r.first.retarget row shift
  match r.last with
  | none => .ok { r with first }
  | some last =>
    let last ← last.retarget row shift
    .ok { r with first, last := some last }

/-- A formula with all its references on a row, counted from 1, and their columns moved. -/
def retargetFormula (formula : String) (row : Nat) (shift : Int) : Except TemplateError String :=
  editReferences (fun r => (r.retarget row shift).map fun moved => some moved.text) formula

end SheetPress
