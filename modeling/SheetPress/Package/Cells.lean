import SheetPress.Package.SharedText
import SheetPress.Sheet.Grid

/-!
# Cells in packages

The part of a sheet lists rows of cells. A cell is an element whose attributes say where it is and of
which kind its value is, and whose inner elements hold its value and its formula. The list is walked
through once for the values and once for the formulas, with a `CellReader` each.
-/

namespace SheetPress

/-! ## Places -/

/-- The row and, if there are letters, the column of an address, both counted from 0. -/
def readAddress? (text : List Char) : Option (Nat × Option Nat) :=
  let letters := text.takeWhile isAsciiLetter
  let digits := text.dropWhile isAsciiLetter
  if digits.all isAsciiDigit ∧ digitsValue digits ≠ 0 then
    some (digitsValue digits - 1, if letters.isEmpty then none else some (columnIndex letters))
  else none

/-- The place that an address with a column names. Unlike `Coord.parse?` this knows no dollar signs
and no limits. -/
def readPlace? (text : List Char) : Option Coord :=
  match readAddress? text with
  | some (row, some col) => some ⟨row, col⟩
  | _ => none

/-- The corners of a region, given as two places or as one. -/
def readCorners? (text : List Char) : Option (Coord × Coord) :=
  match splitAtFirst? [':'] text with
  | none => (readPlace? text).map fun place => (place, place)
  | some (first, second) => do
    let first ← readPlace? first
    let second ← readPlace? second
    some (first, second)

/-! ## Walking through cells -/

/-- A way to read cells. `σ` is what is remembered from cell to cell, `α` is what a cell gives. -/
structure CellReader (σ α : Type) where
  /-- What a cell without inner elements gives. -/
  blank : α
  /-- Reads an inner element of a cell from behind its opening tag on. -/
  element? : (cell inner : MarkupTag) → Coord → σ × α → List MarkupEvent →
    Option ((σ × α) × List MarkupEvent)
  length_le : ∀ {cell inner : MarkupTag} {place : Coord} {s t : σ × α}
    {events rest : List MarkupEvent}, element? cell inner place s events = some (t, rest) →
    rest.length ≤ events.length

namespace CellReader

variable {σ α : Type}

/-- Reads the inner elements of a cell up to its end. -/
def content? (r : CellReader σ α) (cell : MarkupTag) (place : Coord) (s : σ × α)
    (events : List MarkupEvent) : Option ((σ × α) × List MarkupEvent) :=
  match events with
  | [] => none
  | .text _ :: rest => content? r cell place s rest
  | .closing name :: rest =>
    if isNamed (localName name) "c" then some (s, rest) else content? r cell place s rest
  | .opening tag :: rest =>
    match h : r.element? cell tag place s rest with
    | none => none
    | some (t, behind) =>
      have := r.length_le h
      content? r cell place t behind
termination_by events.length

theorem content?_length_lt (r : CellReader σ α) {cell : MarkupTag} {place : Coord} {s t : σ × α}
    {events rest : List MarkupEvent} (h : r.content? cell place s events = some (t, rest)) :
    rest.length < events.length := by
  fun_induction content? r cell place s events with
  | case1 => cases h
  | case2 s raw rest ih => have := ih h; simp only [List.length_cons]; omega
  | case3 => cases h; simp
  | case4 s name rest _ ih => have := ih h; simp only [List.length_cons]; omega
  | case5 => cases h
  | case6 s tag rest t' behind hr _ ih =>
    have h₁ := ih h
    have h₂ := r.length_le hr
    simp only [List.length_cons]
    omega

/-- The place of a cell that may say where it is; otherwise it is the next one. -/
def placeOf? (tag : MarkupTag) (next : Coord) : Option Coord :=
  match tag.written? "r" with
  | none => none
  | some none => some next
  | some (some address) => readPlace? address

/-- The row that the tag of a row begins, given the next one. -/
def rowOf? (tag : MarkupTag) (next : Nat) : Option Nat :=
  match tag.written? "r" with
  | none => none
  | some none => some next
  | some (some address) => (readAddress? address).map (·.1)

/-- Reads rows of cells up to their end. `next` is the place behind the last cell; a cell that says
where it is moves the column along, but not the row. -/
def cells? (r : CellReader σ α) (s : σ) (next : Coord) (events : List MarkupEvent) :
    Option (List (Coord × α)) :=
  match events with
  | [] => none
  | .text _ :: rest => cells? r s next rest
  | .closing name :: rest =>
    if isNamed (localName name) "sheetData" then some []
    else if isNamed (localName name) "row" then cells? r s ⟨next.row + 1, 0⟩ rest
    else cells? r s next rest
  | .opening tag :: rest =>
    if isNamed tag.localName "row" then
      match rowOf? tag next.row with
      | none => none
      | some row => cells? r s { next with row } rest
    else if isNamed tag.localName "c" then
      match placeOf? tag next with
      | none => none
      | some place =>
        match h : r.content? tag place (s, r.blank) rest with
        | none => none
        | some ((s, a), behind) =>
          have := r.content?_length_lt h
          (cells? r s ⟨next.row, place.col + 1⟩ behind).map ((place, a) :: ·)
    else cells? r s next rest
termination_by events.length

end CellReader

/-- Cells of a region. The region ends with the row of the last cell, so cells further down that
stand before it in the list do not belong to it. -/
def withinRegion {α : Type} (cells : List (Coord × α)) : List (Coord × α) :=
  match cells.getLast? with
  | none => []
  | some (last, _) => cells.filter fun (place, _) => place.row ≤ last.row

/-! ## The part of a sheet -/

/-- Whether the tag that names the region in use says where that is. -/
def isReadableDimension (tag : MarkupTag) : Bool :=
  match tag.written? "ref" with
  | some (some region) => (readCorners? region).isSome
  | _ => false

/-- The events from the rows of a sheet on, if there are rows. `known` says that some other element
was there; without rows, a part has to have one. -/
def rowEvents? (known : Bool) : List MarkupEvent → Option (Option (List MarkupEvent))
  | [] => if known then some none else none
  | .text _ :: rest => rowEvents? known rest
  | .closing _ :: rest => rowEvents? known rest
  | .opening tag :: rest =>
    if isNamed tag.localName "dimension" then
      if isReadableDimension tag then rowEvents? known rest else none
    else if isNamed tag.localName "sheetData" then some (some rest)
    else rowEvents? true rest

/-- What a reader gets out of the cells of a sheet. A part without rows has none, but it has to be
readable to its end. -/
def CellReader.sheetCells? {σ α : Type} (r : CellReader σ α) (s : σ) (part : Markup) :
    Option (List (Coord × α)) :=
  match rowEvents? false part.events with
  | none => none
  | some none => if part.complete then some [] else none
  | some (some rows) => r.cells? s ⟨0, 0⟩ rows

/-! ## Values -/

/-- A text as a number if it reads as one, or as text. -/
def numberOrText (text : List Char) : CellValue :=
  match readNumber? text with
  | some x => .number x
  | none => .text (String.ofList text)

/-- The spellings of errors in a package. -/
def packageErrorCodes : List String :=
  ["#DIV/0!", "#N/A", "#NAME?", "#NULL!", "#NUM!", "#REF!", "#VALUE!"]

/-- The value that a text means in a cell of a kind. -/
def valueOfKind? (texts : Array String) (kind : List Char) (text : List Char) : Option CellValue :=
  if isNamed kind "s" then ((readNat? sizeLimit text).bind fun i => texts[i]?).map .text
  else if isNamed kind "b" then some (.boolean (text ≠ ['0']))
  else if isNamed kind "e" then
    if packageErrorCodes.any (isNamed text) then some (.error (.ofCode (String.ofList text))) else none
  else if isNamed kind "d" then some (.text (String.ofList text))
  else if isNamed kind "str" then some (numberOrText text)
  else if isNamed kind "n" then
    if text.isEmpty then some .empty else (readNumber? text).map .number
  else none

/-- The value that a text means in a cell. -/
def valueIn? (texts : Array String) (cell : MarkupTag) (text : List Char) : Option CellValue :=
  match cell.written? "t" with
  | none => none
  | some none => some (numberOrText text)
  | some (some kind) => valueOfKind? texts kind text

/-- The value that an inner element gives to its cell. A formula gives none. -/
def valueElement? (texts : Array String) (cell inner : MarkupTag) (events : List MarkupEvent) :
    Option (CellValue × List MarkupEvent) :=
  if isNamed inner.localName "is" then
    (readText? inner.name {} events).map fun (text, rest) =>
      ((text.map fun t => CellValue.text (String.ofList t)).getD .empty, rest)
  else if isNamed inner.localName "v" then
    (textOfElement? inner.name events).bind fun (text, rest) =>
      (valueIn? texts cell text).map fun value => (value, rest)
  else if isNamed inner.localName "f" then
    (behindElement? inner.name 0 events).map fun rest => (CellValue.empty, rest)
  else none

theorem valueElement?_length_le {texts : Array String} {cell inner : MarkupTag} {value : CellValue}
    {events rest : List MarkupEvent}
    (h : valueElement? texts cell inner events = some (value, rest)) :
    rest.length ≤ events.length := by
  unfold valueElement? at h
  split at h
  · simp only [Option.map_eq_some_iff, Prod.mk.injEq, Prod.exists] at h
    obtain ⟨text, behind, h, -, rfl⟩ := h
    exact Nat.le_of_lt (readText?_length_lt h)
  · split at h
    · simp only [Option.bind_eq_some_iff, Option.map_eq_some_iff, Prod.mk.injEq, Prod.exists] at h
      obtain ⟨text, behind, h, value, -, -, rfl⟩ := h
      exact Nat.le_of_lt (textOfElement?_length_lt h)
    · split at h
      · simp only [Option.map_eq_some_iff, Prod.mk.injEq] at h
        obtain ⟨behind, h, -, rfl⟩ := h
        exact Nat.le_of_lt (behindElement?_length_lt h)
      · cases h

/-- Reads the values of cells. The last inner element of a cell counts. -/
def valueReader (texts : Array String) : CellReader Unit CellValue where
  blank := .empty
  element? cell inner _ _ events :=
    (valueElement? texts cell inner events).map fun (value, rest) => (((), value), rest)
  length_le h := by
    simp only [Option.map_eq_some_iff, Prod.mk.injEq, Prod.exists] at h
    obtain ⟨value, rest, h, -, rfl⟩ := h
    exact valueElement?_length_le h

/-- The values of the cells of a sheet, those that are not empty. -/
def sheetValues? (texts : Array String) (part : Markup) : Option (List (Coord × CellValue)) :=
  ((valueReader texts).sheetCells? () part).map fun cells =>
    withinRegion (cells.filter fun (_, value) => !value.isEmpty)

end SheetPress
