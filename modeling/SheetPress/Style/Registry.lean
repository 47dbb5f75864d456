import SheetPress.Style.Basic

/-!
# Style registry

The styles of a workbook by number, where cells refer to them. A reverse lookup finds the number of a
style that is registered already, so equal styles share one number. Number 0 is the default style.
-/

namespace SheetPress

/-- Registered styles in order, and the numbers by which styles are found again. -/
structure StyleRegistry where
  styles : Array CellStyle
  numbers : List (CellStyle × Nat)
  deriving DecidableEq, Repr

namespace StyleRegistry

/-- The registry that holds the default style only. -/
def initial : StyleRegistry where
  styles := #[{}]
  numbers := [({}, 0)]

/-- The number under which a style is found, if it is. -/
def number? (r : StyleRegistry) (style : CellStyle) : Option Nat := r.numbers.lookup style

/-- How many styles are registered. -/
def size (r : StyleRegistry) : Nat := r.styles.size

/-- Whether a number is in use. -/
def contains (r : StyleRegistry) (id : Nat) : Bool := id < r.size

/-- The default style. -/
def default (r : StyleRegistry) : CellStyle := r.styles[0]?.getD {}

/-- The style with a number; numbers not in use stand for the default style. -/
def get (r : StyleRegistry) (id : Nat) : CellStyle := r.styles[id]?.getD r.default

/-- Whether there is no style but the default one. -/
def isEmpty (r : StyleRegistry) : Bool := r.size ≤ 1

/-- The number of a style, which is registered first if it is not found. -/
def getOrCreate (r : StyleRegistry) (style : CellStyle) : Nat × StyleRegistry :=
  match r.number? style with
  | some id => (id, r)
  | none =>
    (r.size, { styles := r.styles.push style, numbers := (style, r.size) :: r.numbers })

/-- Adds a number to a reverse lookup, unless the style has one. -/
def addNumber (numbers : List (CellStyle × Nat)) (style : CellStyle) (id : Nat) :
    List (CellStyle × Nat) :=
  if (numbers.lookup style).isSome then numbers else (style, id) :: numbers

/-- Registers a style under a number of its own, even if an equal one is there. -/
def push (r : StyleRegistry) (style : CellStyle) : Nat × StyleRegistry :=
  (r.size, { styles := r.styles.push style, numbers := addNumber r.numbers style r.size })

/-- The reverse lookup of a list of styles numbered from `first` on: each style has its lowest
number. -/
def numbersFrom (numbers : List (CellStyle × Nat)) (first : Nat) :
    List CellStyle → List (CellStyle × Nat)
  | [] => numbers
  | style :: rest => numbersFrom (addNumber numbers style first) (first + 1) rest

/-- Builds the reverse lookup anew from the styles. -/
def rebuild (r : StyleRegistry) : StyleRegistry :=
  { r with numbers := numbersFrom [] 0 r.styles.toList }

/-- Replaces the default style. -/
def setDefault (r : StyleRegistry) (style : CellStyle) : StyleRegistry :=
  { r with styles := r.styles.setIfInBounds 0 style }.rebuild

/-- A registry of stored styles, whose reverse lookup is still empty. -/
def ofStored (styles : Array CellStyle) : StyleRegistry := ⟨styles, []⟩

end StyleRegistry

end SheetPress
