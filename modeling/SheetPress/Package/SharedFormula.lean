import SheetPress.Package.Cells

/-!
# Formulas in packages

A cell holds the text of its formula, or it shares the formula of another cell. A shared formula is
for the cells of one column or of one row, and the places that it names move as far as the cell lies
from the one in which the formula is written.
-/

namespace SheetPress

/-! ## Moving the places of a formula -/

/-- How far a formula moves down and to the right; up and to the left where it is negative. -/
structure Move where
  rows : Int
  cols : Int
  deriving DecidableEq, Repr

/-- How many numbers rows have. They are counted in 32 bits, so a row above the first one has a number
at the end of them. -/
def rowNumbers : Nat := powerOfTwo 32

/-- A place moved, if its column stays on the sheet. -/
def Move.place? (m : Move) (place : Coord) : Option Coord :=
  let col := Int.ofNat place.col + m.cols
  if 0 ≤ col ∧ col < Int.ofNat maxColumns then
    some ⟨((Int.ofNat place.row + m.rows) % Int.ofNat rowNumbers).toNat, col.toNat⟩
  else none

/-- A word of a formula moved, if it is a place and stays on the sheet. Words with dollar signs are
cut at these, so such places stay where they are. -/
def movedWord (m : Move) (word : List Char) : List Char :=
  match (readPlace? word).bind m.place? with
  | some place => place.address.toList
  | none => word

/-- Moves the words of a formula outside quoted texts. A word is letters followed by digits; `word`
holds the start of the current one in reverse order, and `numbered` says that it has a digit. -/
def moveWords (m : Move) (quoted : Bool) (word : List Char) (numbered : Bool) :
    List Char → List Char
  | [] => movedWord m word.reverse
  | c :: rest =>
    if (c == '"') != quoted then c :: moveWords m true word numbered rest
    else if isAsciiLetter c then
      if numbered then word.reverse ++ moveWords m false [c] false rest
      else moveWords m false (c :: word) false rest
    else if isAsciiDigit c then moveWords m false (c :: word) true rest
    else movedWord m word.reverse ++ c :: moveWords m false [] false rest

/-- The text of which each character is one byte, the lowest of the given one. -/
def ofLowBytes? (text : List Char) : Option (List Char) :=
  (String.fromUTF8? ⟨(text.map fun c => UInt8.ofNat c.toNat).toArray⟩).map String.toList

/-- A formula moved. Of characters outside ASCII only the lowest byte is kept, and what results has
to be a text. -/
def movedFormula? (m : Move) (formula : List Char) : Option (List Char) :=
  ofLowBytes? (moveWords m false [] false formula)

/-! ## Shared formulas -/

/-- A formula with the place of the cell in which it is written and the corners of the region that it
is for. -/
structure SharedFormula where
  text : List Char
  home : Coord
  first : Coord
  last : Coord
  deriving DecidableEq, Repr

/-- How a formula moves from its own cell to another one, if it is for that. A region of several rows
counts by its first column only, and in it formulas move by rows; elsewhere they move by columns. -/
def SharedFormula.move? (f : SharedFormula) (place : Coord) : Option Move :=
  if f.first.row ≠ f.last.row then
    if place.col = f.first.col ∧ f.first.row ≤ place.row ∧ place.row ≤ f.last.row then
      some ⟨Int.ofNat place.row - Int.ofNat f.home.row, 0⟩
    else none
  else if f.first.col ≠ f.last.col then
    if place.row = f.first.row ∧ f.first.col ≤ place.col ∧ place.col ≤ f.last.col then
      some ⟨0, Int.ofNat place.col - Int.ofNat f.home.col⟩
    else none
  else none

/-- The shared formulas of a sheet by number, and the lowest number behind all of them. -/
structure SharedFormulas where
  size : Nat := 0
  known : List (Nat × SharedFormula) := []
  deriving DecidableEq, Repr

namespace SharedFormulas

/-- Adds a formula under its number, or under the lowest one that is still free behind all others. -/
def add (s : SharedFormulas) (number : Nat) (f : SharedFormula) : SharedFormulas where
  size := max s.size number + 1
  known := (max s.size number, f) :: s.known

/-- The formula with a number. -/
def get? (s : SharedFormulas) (number : Nat) : Option SharedFormula := s.known.lookup number

end SharedFormulas

/-! ## Reading -/

/-- What is known while the formula of a cell is read: the formulas shared so far, and the one of the
cell. -/
abbrev FormulaScan := SharedFormulas × Option (List Char)

/-- The own text of an inner element, if it is a formula. -/
def ownFormula? (inner : MarkupTag) (events : List MarkupEvent) :
    Option (Option (List Char) × List MarkupEvent) :=
  if isNamed inner.localName "is" || isNamed inner.localName "v" then
    (behindElement? inner.name 0 events).map fun rest => (none, rest)
  else if isNamed inner.localName "f" then
    (textOfElement? inner.name events).map fun (text, rest) => (some text, rest)
  else none

theorem ownFormula?_length_le {inner : MarkupTag} {own : Option (List Char)}
    {events rest : List MarkupEvent} (h : ownFormula? inner events = some (own, rest)) :
    rest.length ≤ events.length := by
  unfold ownFormula? at h
  split at h
  · simp only [Option.map_eq_some_iff, Prod.mk.injEq] at h
    obtain ⟨behind, h, -, rfl⟩ := h
    exact Nat.le_of_lt (behindElement?_length_lt h)
  · split at h
    · simp only [Option.map_eq_some_iff, Prod.mk.injEq, Prod.exists] at h
      obtain ⟨text, behind, h, -, rfl⟩ := h
      exact Nat.le_of_lt (textOfElement?_length_lt h)
    · cases h

/-- The number of the shared formula that an element names. -/
def sharedNumber? (inner : MarkupTag) : Option Nat :=
  match inner.written? "si" with
  | some (some digits) => readNat? sizeLimit digits
  | _ => none

/-- Takes in the formula of a cell that shares one: the first cell brings it along with its region,
the others move it. `own` is what the cell itself says. -/
def shareFormula? (inner : MarkupTag) (place : Coord) (s : FormulaScan) (own : Option (List Char)) :
    Option FormulaScan := do
  let number ← sharedNumber? inner
  match ← inner.written? "ref" with
  | some region =>
    let (first, last) ← readCorners? region
    match own with
    | some text => some (s.1.add number ⟨text, place, first, last⟩, own)
    | none => some (s.1, none)
  | none =>
    match (s.1.get? number).bind fun f => (f.move? place).map fun m => (f, m) with
    | some (f, m) =>
      let moved ← movedFormula? m f.text
      some (s.1, some moved)
    | none => some (s.1, own.or s.2)

/-- Reads an inner element of a cell. -/
def formulaElement? (inner : MarkupTag) (place : Coord) (s : FormulaScan)
    (events : List MarkupEvent) : Option (FormulaScan × List MarkupEvent) :=
  (ownFormula? inner events).bind fun (own, rest) =>
    (if inner.written? "t" = some (some "shared".toList) then shareFormula? inner place s own
      else some (s.1, own.or s.2)).map fun s => (s, rest)

/-- Reads the formulas of cells. -/
def formulaReader : CellReader SharedFormulas (Option (List Char)) where
  blank := none
  element? _ inner place s events := formulaElement? inner place s events
  length_le h := by
    simp only [formulaElement?, Option.bind_eq_some_iff, Option.map_eq_some_iff, Prod.mk.injEq,
      Prod.exists] at h
    obtain ⟨own, rest, h, -, -, -, -, rfl⟩ := h
    exact ownFormula?_length_le h

/-- The formulas of the cells of a sheet, those that are not empty, without their equals signs. -/
def sheetFormulas? (part : Markup) : Option (List (Coord × String)) :=
  (formulaReader.sheetCells? {} part).map fun cells =>
    withinRegion (cells.filterMap fun (place, formula) =>
      match formula with
      | some (c :: rest) => some (place, String.ofList (c :: rest))
      | _ => none)

end SheetPress
