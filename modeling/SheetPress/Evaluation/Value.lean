import SheetPress.Cell.Basic
import SheetPress.Text.CaseMap

/-!
# Values of expressions

What an expression evaluates to: a single value, or the values of the cells of a range. A range where
a single value is wanted stands for its first one.
-/

namespace SheetPress

/-- The value of an expression. -/
inductive Value where
  | number (x : Float)
  | text (s : String)
  | boolean (b : Bool)
  | error (e : CellError)
  | array (items : List Value)
  deriving Repr, Inhabited

namespace Value

/-- The value of a cell in an expression; an empty cell counts as zero. -/
def ofCell : CellValue → Value
  | .empty => number 0.0
  | .number x => number x
  | .text s => text s
  | .boolean b => boolean b
  | .error e => error e

/-- A value as a cell stores it. -/
def toCell : Value → CellValue
  | number x => .number x
  | text s => .text s
  | boolean b => .boolean b
  | error e => .error e
  | array (item :: _) => toCell item
  | array [] => .empty

/-- A value as a number; texts are read as numbers. -/
def asNumber? : Value → Option Float
  | number x => some x
  | boolean b => some (if b then 1.0 else 0.0)
  | text s => readNumber? (trimChars s.toList)
  | array (item :: _) => asNumber? item
  | array [] => none
  | error _ => none

/-- A value as a truth value; numbers other than zero are true. -/
def asBoolean? : Value → Option Bool
  | boolean b => some b
  | number x => some (x != 0.0)
  | text s =>
    let word := s.toList.map Char.toUpper
    if word = ['T', 'R', 'U', 'E'] then some true
    else if word = ['F', 'A', 'L', 'S', 'E'] then some false
    else none
  | array (item :: _) => asBoolean? item
  | array [] => none
  | error _ => none

/-- A value as text. -/
def asText : Value → String
  | number x => numberText x
  | text s => s
  | boolean b => booleanText b
  | error e => e.code
  | array (item :: _) => asText item
  | array [] => ""

/-- Whether a value is an error. -/
def isError : Value → Bool
  | error _ => true
  | _ => false

mutual

/-- The single values of a value, ranges within ranges laid open. -/
def flatten : Value → List Value
  | array items => flattenAll items
  | single => [single]

/-- The single values of several values. -/
def flattenAll : List Value → List Value
  | [] => []
  | item :: rest => flatten item ++ flattenAll rest

end

/-! ## Comparing and calculating -/

/-- The distance below which two numbers count as equal. -/
def tolerance : Float := 2.220446049250313e-16

/-- Whether two values are equal: of the same kind, numbers nearly, texts but for case. -/
def equal : Value → Value → Bool
  | number x, number y => (x - y).abs < tolerance
  | text s, text t => toLowerText s == toLowerText t
  | boolean a, boolean b => a == b
  | _, _ => false

/-- The order of two numbers, if neither is the value that is not a number. -/
def compareNumbers? (x y : Float) : Option Ordering :=
  if x < y then some .lt else if x == y then some .eq else if x > y then some .gt else none

/-- The order of two values: texts but for case, everything else as numbers. -/
def compare? (left right : Value) : Option Ordering :=
  match left, right with
  | text s, text t => some (Ord.compare (toLowerText s) (toLowerText t))
  | left, right => do
    let x ← left.asNumber?
    let y ← right.asNumber?
    compareNumbers? x y

/-- The truth of a comparison; values without an order give the value error. -/
def test (holds : Ordering → Bool) (left right : Value) : Value :=
  match compare? left right with
  | some order => boolean (holds order)
  | none => error .value

/-- The number that an operation gives for two operands read as numbers. -/
def arithmetic (f : Float → Float → Float) (left right : Value) : Value :=
  match left.asNumber?, right.asNumber? with
  | some x, some y => number (f x y)
  | _, _ => error .value

/-- A power, or the number error if it is infinite or no number. -/
def finiteOr (result : Value) : Value :=
  match result with
  | number x => if x.isFinite then number x else error .number
  | other => other

end Value

end SheetPress
