import SheetPress.Evaluation.Functions

/-!
# Evaluating expressions

`Expr.eval` gives the value of an expression in a scope. It reads the values that cells hold and does
not follow their formulas.
-/

namespace SheetPress

/-- The value of an operator between two values. The first error among the operands counts. -/
def BinaryOp.eval (op : BinaryOp) (left right : Value) : Value :=
  if left.isError then left
  else if right.isError then right
  else
    match op with
    | add => Value.arithmetic (· + ·) left right
    | subtract => Value.arithmetic (· - ·) left right
    | multiply => Value.arithmetic (· * ·) left right
    | divide =>
      if right.asNumber?.any (· == 0.0) then .error .divisionByZero
      else Value.arithmetic (· / ·) left right
    | power => Value.finiteOr (Value.arithmetic Float.pow left right)
    | concat => .text (left.asText ++ right.asText)
    | equal => .boolean (left.equal right)
    | notEqual => .boolean (!left.equal right)
    | less => Value.test (· == .lt) left right
    | greater => Value.test (· == .gt) left right
    | lessEqual => Value.test (· != .gt) left right
    | greaterEqual => Value.test (· != .lt) left right

/-- The value of an operator on one value. -/
def UnaryOp.eval (op : UnaryOp) (operand : Value) : Value :=
  if operand.isError then operand
  else
    match op, operand.asNumber? with
    | negate, some x => .number (-x)
    | percent, some x => .number (x / 100.0)
    | _, none => .error .value

/-- The value of a literal. -/
def Literal.value : Literal → Value
  | number x => .number x
  | text s => .text s
  | boolean b => .boolean b

/-- The value of a cell as an operand; where none is stored it is zero. -/
def cellOperand : Option Cell → Value
  | some cell => .ofCell cell.value
  | none => .number 0.0

namespace Expr

/-- The value of a reference: that of its cell, or those of the stored cells that it covers. -/
def referenceValue (scope : Scope) (e : Expr) : Value :=
  match e, e.visit? scope with
  | cell .., some cells => cellOperand (cells.headD none)
  | _, some cells => .array ((cells.filterMap id).map fun cell => .ofCell cell.value)
  | _, none => .error .reference

mutual

/-- The value of an expression. -/
def eval (scope : Scope) : Expr → Value
  | literal value => value.value
  | cell sheet ref => referenceValue scope (cell sheet ref)
  | range sheet first last => referenceValue scope (range sheet first last)
  | columns sheet first last => referenceValue scope (columns sheet first last)
  | rows sheet first last => referenceValue scope (rows sheet first last)
  | binary op left right => op.eval (eval scope left) (eval scope right)
  | unary op operand => op.eval (eval scope operand)
  | call name args => callFunction name (evalArguments scope args)

/-- The arguments of a function call. -/
def evalArguments (scope : Scope) : List Expr → List Argument
  | [] => []
  | arg :: rest =>
    ⟨eval scope arg, arg.isReference, arg.visit? scope⟩ :: evalArguments scope rest

end

end Expr

end SheetPress
