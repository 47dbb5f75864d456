import SheetPress.Package.Layout

/-!
# The style table of a package

Cells refer to styles by their position in a list of cell formats, and these refer to fonts, fills,
borders and number formats by position or number. `StyleTable.ofEvents` gathers the lists from the
tags of a part, `StyleTable.styles` follows the references. The sections may stand in any order: all
references are followed at the end.
-/

namespace SheetPress

/-- Number formats that need not be declared, by number. -/
def builtinNumberFormats : List (Nat × String) :=
  [(1, "0"), (2, "0.00"), (3, "#,##0"), (4, "#,##0.00"), (9, "0%"), (10, "0.00%"),
    (11, "0.00E+00"), (14, "mm-dd-yy"), (15, "d-mmm-yy"), (20, "h:mm"), (22, "m/d/yy h:mm"),
    (49, "@")]

/-- A cell format with its references. -/
structure CellFormat where
  numberFormat : Nat := 0
  font : Nat := 0
  fill : Nat := 0
  border : Nat := 0
  horizontal : HorizontalAlign := .general
  vertical : VerticalAlign := .bottom
  wrapText : Bool := false
  deriving DecidableEq, Repr

/-- The lists that the style table of a package consists of. -/
structure StyleTable where
  /-- Declared number formats; of those with one number the first in the list counts. -/
  numberFormats : List (Nat × String) := []
  fonts : List Font := []
  fills : List Fill := []
  borders : List Borders := []
  formats : List CellFormat := []
  deriving DecidableEq, Repr

namespace StyleTable

/-- The number format with a number. Number 0 is none, and a declared one comes before a built-in
one. -/
def numberFormat? (t : StyleTable) (id : Nat) : Option String :=
  if id = 0 then none else (t.numberFormats.lookup id).or (builtinNumberFormats.lookup id)

/-- The style that a cell format describes; a reference to nothing stands for the default. -/
def style (t : StyleTable) (format : CellFormat) : CellStyle where
  font := t.fonts[format.font]?.getD {}
  fill := t.fills[format.fill]?.getD .none
  horizontal := format.horizontal
  vertical := format.vertical
  wrapText := format.wrapText
  numberFormat := t.numberFormat? format.numberFormat
  borders := t.borders[format.border]?.getD {}

/-- The styles of all cell formats in order. -/
def styles (t : StyleTable) : List CellStyle := t.formats.map t.style

end StyleTable

/-! ## Reading -/

/-- The sections of a style table that hold lists; all else is one section. -/
inductive StyleSection where
  | other | fonts | fills | borders | formats
  deriving DecidableEq, Repr

/-- The section that an opening tag begins, if it begins one. -/
def StyleSection.ofTag? (tag : MarkupTag) : Option StyleSection :=
  if isNamed tag.name "fonts" then some .fonts
  else if isNamed tag.name "fills" then some .fills
  else if isNamed tag.name "borders" then some .borders
  else if isNamed tag.name "cellXfs" then some .formats
  else if isNamed tag.name "cellStyleXfs" || isNamed tag.name "dxfs" then some .other
  else none

/-- The sides of a cell. -/
inductive Side where
  | left | right | top | bottom
  deriving DecidableEq, Repr

namespace Side

/-- The side that the name of an element stands for. -/
def ofName? (name : List Char) : Option Side :=
  if isNamed name "left" then some .left
  else if isNamed name "right" then some .right
  else if isNamed name "top" then some .top
  else if isNamed name "bottom" then some .bottom
  else none

end Side

/-- Borders with the edge on one side changed. -/
def Borders.modify (b : Borders) (side : Side) (f : Edge → Edge) : Borders :=
  match side with
  | .left => { b with left := f b.left }
  | .right => { b with right := f b.right }
  | .top => { b with top := f b.top }
  | .bottom => { b with bottom := f b.bottom }

/-- A fill that is being read; only a solid pattern takes a color. -/
structure PendingFill where
  isSolid : Bool := false
  fill : Fill := .none
  deriving DecidableEq, Repr

/-- A style table that is being read: the section, and the elements that are open. -/
structure StyleScan where
  within : StyleSection := .other
  table : StyleTable := {}
  font : Option Font := none
  fill : Option PendingFill := none
  borders : Option Borders := none
  side : Option Side := none
  format : Option CellFormat := none

namespace MarkupTag

/-- Whether an element such as `b` switches something on; it does unless it says otherwise. -/
def isFlag (t : MarkupTag) : Bool := t.value? "val" != some "0" && t.value? "val" != some "false"

/-- The color that an element gives as a number. -/
def color? (t : MarkupTag) : Option Color := (t.value? "rgb").bind Color.ofHex?

end MarkupTag

/-- A font with what an element inside it says. -/
def Font.read (f : Font) (tag : MarkupTag) : Font :=
  if isNamed tag.name "b" then { f with bold := tag.isFlag }
  else if isNamed tag.name "i" then { f with italic := tag.isFlag }
  else if isNamed tag.name "strike" then { f with strikethrough := tag.isFlag }
  else if isNamed tag.name "u" then { f with underline := tag.value? "val" != some "none" }
  else if isNamed tag.name "sz" then ((tag.number? "val").map f.withPoints).getD f
  else if isNamed tag.name "name" then
    ((tag.value? "val").map fun family => { f with family }).getD f
  else if isNamed tag.name "color" then { f with color := tag.color? }
  else f

/-- A fill with what an element inside it says. -/
def PendingFill.read (p : PendingFill) (tag : MarkupTag) : PendingFill :=
  if isNamed tag.name "patternFill" then
    { p with isSolid := tag.value? "patternType" == some "solid" }
  else if isNamed tag.name "fgColor" && p.isSolid then
    (tag.color?.map fun color => { p with fill := .solid color }).getD p
  else p

/-- The horizontal alignment with a name. -/
def HorizontalAlign.ofName : Option String → HorizontalAlign
  | some "left" => .left
  | some "center" | some "centerContinuous" => .center
  | some "right" => .right
  | _ => .general

/-- The vertical alignment with a name. -/
def VerticalAlign.ofName : Option String → VerticalAlign
  | some "top" => .top
  | some "center" => .middle
  | _ => .bottom

namespace CellFormat

/-- The references that the tag of a cell format gives. -/
def ofTag (tag : MarkupTag) : CellFormat where
  numberFormat := (tag.natural? indexLimit "numFmtId").getD 0
  font := (tag.natural? sizeLimit "fontId").getD 0
  fill := (tag.natural? sizeLimit "fillId").getD 0
  border := (tag.natural? sizeLimit "borderId").getD 0

/-- A cell format with what an element inside it says. -/
def read (f : CellFormat) (tag : MarkupTag) : CellFormat :=
  if isNamed tag.name "alignment" then
    { f with
      horizontal := .ofName (tag.value? "horizontal")
      vertical := .ofName (tag.value? "vertical")
      wrapText := isSwitchedOn (tag.value? "wrapText") }
  else f

end CellFormat

namespace StyleScan

/-- Takes in the declaration of a number format. -/
def declare (s : StyleScan) (tag : MarkupTag) : StyleScan :=
  match tag.natural? indexLimit "numFmtId", tag.value? "formatCode" with
  | some id, some code =>
    { s with table := { s.table with numberFormats := (id, code) :: s.table.numberFormats } }
  | _, _ => s

/-- Takes in an opening tag within the borders. -/
def openBorder (s : StyleScan) (tag : MarkupTag) : StyleScan :=
  if isNamed tag.name "border" then { s with borders := some {} }
  else
    match s.borders with
    | none => s
    | some borders =>
      match Side.ofName? tag.name with
      | some side =>
        let line := ((tag.value? "style").map BorderLine.ofName).getD .none
        { s with borders := some (borders.modify side ({ · with line })), side := some side }
      | none =>
        match s.side with
        | some side =>
          if isNamed tag.name "color" then
            { s with borders := some (borders.modify side ({ · with color := tag.color? })) }
          else s
        | none => s

/-- Takes in an opening tag that belongs to the current section. -/
def openWithin (s : StyleScan) (tag : MarkupTag) : StyleScan :=
  match s.within with
  | .fonts =>
    if isNamed tag.name "font" then { s with font := some {} }
    else { s with font := s.font.map (·.read tag) }
  | .fills =>
    if isNamed tag.name "fill" then { s with fill := some {} }
    else { s with fill := s.fill.map (·.read tag) }
  | .borders => s.openBorder tag
  | .formats =>
    if isNamed tag.name "xf" then { s with format := some (.ofTag tag) }
    else { s with format := s.format.map (·.read tag) }
  | .other => s

/-- Takes in an opening tag. -/
def openTag (s : StyleScan) (tag : MarkupTag) : StyleScan :=
  if isNamed tag.name "numFmt" then s.declare tag
  else
    match StyleSection.ofTag? tag with
    | some within => { s with within }
    | none => s.openWithin tag

/-- Takes in a closing tag: the element that is open goes to the end of its list. -/
def closeTag (s : StyleScan) (name : List Char) : StyleScan :=
  if isNamed name "font" then
    { s with font := none, table := { s.table with fonts := s.table.fonts ++ s.font.toList } }
  else if isNamed name "fill" then
    { s with
      fill := none
      table := { s.table with fills := s.table.fills ++ (s.fill.map (·.fill)).toList } }
  else if isNamed name "border" then
    { s with
      borders := none
      table := { s.table with borders := s.table.borders ++ s.borders.toList } }
  else if isNamed name "xf" then
    { s with
      format := none
      table := { s.table with formats := s.table.formats ++ s.format.toList } }
  else if (Side.ofName? name).isSome then { s with side := none }
  else if isNamed name "fonts" || isNamed name "fills" || isNamed name "borders"
      || isNamed name "cellXfs" then
    { s with within := .other }
  else s

/-- Takes in an event. -/
def step (s : StyleScan) : MarkupEvent → StyleScan
  | .opening tag => s.openTag tag
  | .closing name => s.closeTag name
  | .text _ => s

end StyleScan

namespace StyleTable

/-- The style table that the events of a part give. -/
def ofEvents (events : List MarkupEvent) : StyleTable := (events.foldl StyleScan.step {}).table

/-- The style table of a part, if its markup is sound. -/
def ofMarkup? (text : String) : Option StyleTable := (Markup.nestedEvents? text).map ofEvents

/-- The registry in which every cell format has its position as number. Without cell formats there is
the initial default style. -/
def registry (t : StyleTable) : StyleRegistry :=
  match t.styles with
  | [] => .initial
  | first :: rest => rest.foldl (fun r style => (r.push style).2) (StyleRegistry.initial.setDefault first)

end StyleTable

end SheetPress
