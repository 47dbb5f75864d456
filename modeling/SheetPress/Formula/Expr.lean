import SheetPress.Coord.Region
import SheetPress.Formula.Token

/-!
# Expressions

The meaning of a formula's words as a tree: literals, references to cells, ranges, whole columns and
whole rows, operators and function calls.
-/

namespace SheetPress

/-- A reference to one cell as it is written: column letters, a row counted from 1, and for each
whether a dollar sign fixes it. -/
structure CellRef where
  column : String
  row : Nat
  columnFixed : Bool := false
  rowFixed : Bool := false
  deriving DecidableEq, Repr

/-- A dollar sign, or nothing. -/
def dollar (fixed : Bool) : List Char := if fixed then ['$'] else []

/-- A dollar sign at the front of a text, and the rest. -/
def splitDollar : List Char → Bool × List Char
  | '$' :: rest => (true, rest)
  | rest => (false, rest)

namespace CellRef

/-- A reference as written. -/
def text (r : CellRef) : String :=
  String.ofList
    (dollar r.columnFixed ++ r.column.toList ++ dollar r.rowFixed ++ Nat.toDigits 10 r.row)

/-- The column of a reference, if a sheet has it. -/
def columnIndex? (r : CellRef) : Option Nat := parseColumn? r.column.toList

/-- The same reference in another column. -/
def withColumn (r : CellRef) (col : Nat) : CellRef := { r with column := columnName col }

end CellRef

/-- A reference to a whole column as it is written. -/
structure ColumnRef where
  column : String
  fixed : Bool := false
  deriving DecidableEq, Repr

/-- A value written in a formula. -/
inductive Literal where
  | number (x : Float)
  | text (s : String)
  | boolean (b : Bool)
  deriving DecidableEq, Repr

/-- How a literal is shown. -/
def Literal.display : Literal → String
  | number x => numberText x
  | text s => "\"" ++ s ++ "\""
  | boolean b => booleanText b

/-- Operators between two operands. -/
inductive BinaryOp where
  | equal | notEqual | less | greater | lessEqual | greaterEqual
  | concat
  | add | subtract | multiply | divide | power
  deriving DecidableEq, Repr

/-- The symbol of an operator. -/
def BinaryOp.symbol : BinaryOp → Symbol
  | equal => .equals
  | notEqual => .notEqual
  | less => .less
  | greater => .greater
  | lessEqual => .lessEqual
  | greaterEqual => .greaterEqual
  | concat => .ampersand
  | add => .plus
  | subtract => .minus
  | multiply => .asterisk
  | divide => .slash
  | power => .caret

/-- Operators on one operand: the sign in front of it and the percent sign behind it. -/
inductive UnaryOp where
  | negate
  | percent
  deriving DecidableEq, Repr

/-- The symbol of an operator. -/
def UnaryOp.symbol : UnaryOp → Symbol
  | negate => .minus
  | percent => .percent

/-- A formula as a tree. A reference without a sheet is to the sheet that holds the formula. -/
inductive Expr where
  | literal (value : Literal)
  | cell (sheet : Option String) (ref : CellRef)
  | range (sheet : Option String) (first last : CellRef)
  | columns (sheet : Option String) (first last : ColumnRef)
  /-- Whole rows, counted from 1. -/
  | rows (sheet : Option String) (first last : Nat)
  | binary (op : BinaryOp) (left right : Expr)
  | unary (op : UnaryOp) (operand : Expr)
  /-- A function call; names are in upper case. -/
  | call (name : String) (args : List Expr)
  deriving Repr, Inhabited

/-- Whether two names differ at most in the case of ASCII letters. -/
def sameName (a b : String) : Bool := a.toList.map Char.toLower == b.toList.map Char.toLower

namespace Expr

mutual

/-- Whether an expression calls a function anywhere. -/
def calls (name : String) : Expr → Bool
  | call called args => sameName called name || anyCalls name args
  | binary _ left right => calls name left || calls name right
  | unary _ operand => calls name operand
  | _ => false

/-- Whether one of several expressions calls a function. -/
def anyCalls (name : String) : List Expr → Bool
  | [] => false
  | arg :: rest => calls name arg || anyCalls name rest

end

end Expr

end SheetPress
