import SheetPress.Decimal.Text

/-!
# Cell coordinates

Cells are addressed by row and column, both counted from 0. Columns are written in letters (`A` is
column 0, `AA` column 26) and cells as letters followed by the row counted from 1, as in `B5`.
-/

namespace SheetPress

/-- The number of columns of a sheet: `A` to `XFD`. -/
def maxColumns : Nat := 16384

/-- The number of rows of a sheet. -/
def maxRows : Nat := 1048576

/-- The numbers that fit an index: 32 bits. -/
def indexLimit : Nat := powerOfTwo 32

/-- The numbers that fit a position in a list: 64 bits. -/
def sizeLimit : Nat := powerOfTwo 64

/-- The place of a cell. -/
structure Coord where
  row : Nat
  col : Nat
  deriving DecidableEq, Repr, Inhabited

/-- Coordinates in reading order: by row, then by column. -/
instance : Ord Coord where
  compare a b := (compare a.row b.row).then (compare a.col b.col)

theorem Coord.compare_def (a b : Coord) :
    compare a b = (compare a.row b.row).then (compare a.col b.col) := rfl

instance : Std.LawfulEqOrd Coord where
  compare_self := by simp [Coord.compare_def]
  eq_of_compare {a b} h := by
    obtain ⟨h₁, h₂⟩ := Ordering.then_eq_eq.mp h
    cases a; cases b
    simp_all

instance : Std.TransOrd Coord :=
  inferInstanceAs
    (Std.TransCmp (compareLex (compareOn Coord.row) (compareOn Coord.col)))

/-! ## Column letters -/

/-- The value of column letters read as digits from 1 to 26, most significant first. -/
def lettersValue (letters : List Char) : Nat :=
  letters.foldl (fun value c => value * 26 + (c.toUpper.toNat - 64)) 0

/-- The index of a column from its letters, in either case. -/
def columnIndex (letters : List Char) : Nat := lettersValue letters - 1

/-- The index of a column, if the text is one to three letters naming a column of a sheet. -/
def parseColumn? (letters : List Char) : Option Nat :=
  if letters ≠ [] ∧ letters.length ≤ 3 ∧ letters.all isAsciiLetter then
    let index := columnIndex letters
    if index < maxColumns then some index else none
  else none

/-- The upper-case letter with a number from 0 to 25. -/
def letterOf (n : Nat) : Char := Char.ofNat ('A'.toNat + n)

/-- The letters of a column. -/
def columnLetters (index : Nat) : List Char :=
  if index < 26 then [letterOf index]
  else columnLetters (index / 26 - 1) ++ [letterOf (index % 26)]
termination_by index

/-- The letters of a column as a string. -/
def columnName (index : Nat) : String := String.ofList (columnLetters index)

/-! ## Addresses -/

namespace Coord

/-- The address of a cell, as in `A1` for row 0 and column 0. -/
def address (c : Coord) : String :=
  String.ofList (columnLetters c.col ++ Nat.toDigits 10 (c.row + 1))

/-- The cell named by column letters and a row counted from 1. -/
def ofLetters (letters : String) (row : Nat) : Coord := ⟨row - 1, columnIndex letters.toList⟩

/-- Reads an address such as `B5` or `$B$5`; dollar signs count for nothing wherever they stand. -/
def parse? (text : List Char) : Option Coord := do
  let cleaned := text.filter (· ≠ '$')
  let digits := cleaned.dropWhile (! isAsciiDigit ·)
  if digits = [] then none
  else
    let col ← parseColumn? (cleaned.takeWhile (! isAsciiDigit ·))
    let row ← readNat? indexLimit digits
    if row = 0 ∨ row > maxRows then none else some ⟨row - 1, col⟩

end Coord

end SheetPress
