import SheetPress.Package.Contents
import SheetPress.Package.SharedFormula
import SheetPress.Package.StyleTable

/-!
# Reading workbooks

`Package.load` reads the workbook that a package holds: its sheets in order, each with the values,
formulas and layout of its part, and its style table.
-/

namespace SheetPress

/-- What cannot be read makes the whole package unreadable. -/
def orUnreadable {α : Type} : Option α → Except PackageError α
  | some a => .ok a
  | none => .error .unreadable

/-! ## Readable styles -/

/-- The lists of a style table that have to be closed. -/
inductive ClosedList where
  | numberFormats | cellFormats
  deriving DecidableEq, Repr

/-- The list that an opening tag begins, if it begins one. -/
def ClosedList.ofTag? (tag : MarkupTag) : Option ClosedList :=
  if isNamed tag.localName "numFmts" then some .numberFormats
  else if isNamed tag.localName "cellXfs" then some .cellFormats
  else none

/-- Whether a closing tag closes a list. -/
def ClosedList.isClosedBy (name : List Char) : ClosedList → Bool
  | numberFormats => isNamed (localName name) "numFmts"
  | cellFormats => isNamed (localName name) "cellXfs"

/-- Whether the declaration of a number format can be read. -/
def isReadableFormat (tag : MarkupTag) : Bool :=
  match tag.allAttributes? with
  | none => false
  | some attributes =>
    (tag.encoding.redecode? ((lastWritten? attributes "formatCode").getD [])).isSome

/-- Whether a style table comes to its end: its lists are closed, and its number formats can be read.
`within` is the list that is open. -/
def isClosedStyleTable (within : Option ClosedList) : List MarkupEvent → Bool
  | [] => false
  | .text _ :: rest => isClosedStyleTable within rest
  | .opening tag :: rest =>
    match within with
    | none => isClosedStyleTable (ClosedList.ofTag? tag) rest
    | some .numberFormats =>
      (!isNamed tag.localName "numFmt" || isReadableFormat tag) && isClosedStyleTable within rest
    | some .cellFormats => isClosedStyleTable within rest
  | .closing name :: rest =>
    match within with
    | none => isNamed (localName name) "styleSheet" || isClosedStyleTable none rest
    | some list => isClosedStyleTable (if list.isClosedBy name then none else within) rest

namespace Package

/-- Whether the style table of a package, if it has one, comes to its end. -/
def hasClosedStyles (p : Package) : Bool :=
  match p.events? stylesPart with
  | none => true
  | some events => isClosedStyleTable none events

/-- The styles of a package. -/
def styleRegistry (p : Package) : Except PackageError StyleRegistry :=
  match p.part? stylesPart with
  | none => .ok .initial
  | some text => (soundEvents stylesPart text).map fun events => (StyleTable.ofEvents events).registry

/-! ## Sheets -/

/-- A grid with a formula laid over the value at a place. -/
def withFormula (g : Grid) (place : Coord) (formula : String) : Grid :=
  g.update place ({ · with formula := some ("=" ++ formula) })

/-- The cells of a sheet with their values and formulas. -/
def sheetWithCells (name : String) (values : List (Coord × CellValue))
    (formulas : List (Coord × String)) : Worksheet :=
  let valued := values.foldl (fun (w : Worksheet) (place, value) => w.setValue place value) { name }
  { valued with
    grid := formulas.foldl (fun g (place, formula) => withFormula g place formula) valued.grid }

/-- Reads a sheet. Its cells come from the part that is listed for the first sheet of its name, its
layout from the part that is known by the name. -/
def loadSheet (p : Package) (texts : Array String) (entries : List SheetEntry)
    (parts : List (String × String)) (styles : StyleRegistry) (entry : SheetEntry) :
    Except PackageError Worksheet := do
  let listed := (entries.find? (·.name == entry.name)).getD entry
  let markup ← orUnreadable (p.markup? listed.part)
  let values ← orUnreadable (sheetValues? texts markup)
  let formulas ← orUnreadable (sheetFormulas? markup)
  let sheet := sheetWithCells entry.name values formulas
  let some part := parts.lookup entry.name | .error (.sheetNotFound entry.name)
  match p.part? part with
  | none => .ok sheet
  | some text =>
    let layout ← soundEvents part text
    .ok (sheet.withLayout styles (.ofEvents layout))

/-- Reads the workbook in a package. -/
def load (p : Package) : Except PackageError Workbook := do
  let texts ← orUnreadable p.sharedTexts?
  if !p.hasClosedStyles then throw .unreadable
  let entries ← orUnreadable p.sheetEntries?
  if entries.isEmpty then throw .noSheets
  let parts ← p.partNames
  let styles ← p.styleRegistry
  let sheets ← entries.mapM (p.loadSheet texts.toArray entries parts styles)
  .ok { sheets, styles }

end Package

end SheetPress
