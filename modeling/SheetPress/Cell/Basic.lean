import SheetPress.Decimal.Text

/-!
# Cells

What a cell holds: the formula that was entered, if any, the value it shows, and the number of its
style.
-/

namespace SheetPress

/-- The errors that a cell can show. -/
inductive CellError where
  | divisionByZero
  | reference
  | name
  | value
  | notAvailable
  | number
  /-- The formula is not well formed. -/
  | malformed
  deriving DecidableEq, Repr

namespace CellError

/-- The spelling of an error in a sheet. -/
def code : CellError → String
  | divisionByZero => "#DIV/0!"
  | reference => "#REF!"
  | name => "#NAME?"
  | value => "#VALUE!"
  | notAvailable => "#N/A"
  | number => "#NUM!"
  | malformed => "#ERROR!"

/-- The error with a given spelling; white space around it counts for nothing, and every other
text is the value error. -/
def ofCode (text : String) : CellError :=
  let text := trimText text
  ([divisionByZero, reference, name, notAvailable, number, malformed].find? (·.code == text)).getD
    value

end CellError

/-- The value of a cell. -/
inductive CellValue where
  | empty
  | number (x : Float)
  | text (s : String)
  | boolean (b : Bool)
  | error (e : CellError)
  deriving DecidableEq, Repr, Inhabited

/-- The display text of a truth value. -/
def booleanText (b : Bool) : String := if b then "TRUE" else "FALSE"

namespace CellValue

/-- Whether there is no value. -/
def isEmpty : CellValue → Bool
  | empty => true
  | _ => false

/-- Whether two values count as equal: numbers as floats do, so zeros of either sign are equal and
what is not a number differs even from itself. -/
def agrees : CellValue → CellValue → Bool
  | empty, empty => true
  | number x, number y => x == y
  | text s, text t => s == t
  | boolean a, boolean b => a == b
  | error e, error f => e == f
  | _, _ => false

/-- A value as a reader of the sheet sees it. -/
def display : CellValue → String
  | empty => ""
  | number x => numberText x
  | text s => s
  | boolean b => booleanText b
  | error e => e.code

end CellValue

/-- A cell. A formula is stored with its leading `=`; style 0 is the default style. -/
structure Cell where
  formula : Option String := none
  value : CellValue := .empty
  style : Nat := 0
  deriving DecidableEq, Repr, Inhabited

/-- A formula with its leading `=`, which is added if it is missing. -/
def withEquals (formula : String) : String :=
  if formula.startsWith "=" then formula else "=" ++ formula

namespace Cell

/-- A cell that holds a value. -/
def ofValue (value : CellValue) : Cell := { value }

/-- A cell that holds a formula not calculated yet. -/
def ofFormula (formula : String) : Cell := { formula := some (withEquals formula) }

/-- The same cell in another style. -/
def withStyle (cell : Cell) (style : Nat) : Cell := { cell with style }

/-- Whether a cell holds a formula. -/
def hasFormula (cell : Cell) : Bool := cell.formula.isSome

/-- Whether a cell holds nothing worth storing. -/
def isBlank (cell : Cell) : Bool := cell.formula.isNone && cell.value.isEmpty && cell.style == 0

/-- A cell as a reader of the sheet sees it. -/
def display (cell : Cell) : String := cell.value.display

end Cell

end SheetPress
