import SheetPress.Markup.Event
import SheetPress.Sheet.Workbook

/-!
# The layout of a sheet in a package

The part of a sheet says, apart from what its cells hold, which regions are merged, how high rows and
how wide columns are, which styles cells have and which region is filtered. `SheetLayout.ofEvents`
gathers this from the tags of the part, wherever they stand in it.
-/

namespace SheetPress

/-- The styles of cells that are not in the default style, by place. -/
abbrev StyleMap := Std.ExtTreeMap Coord Nat

/-- The layout of a sheet. -/
structure SheetLayout where
  merged : List Region := []
  rowHeights : LineSizes := ∅
  columnWidths : LineSizes := ∅
  styles : StyleMap := ∅
  filter : Option Region := none
  deriving Inhabited

/-- Whether the text of an attribute switches something on. -/
def isSwitchedOn (value : Option String) : Bool := value == some "1" || value == some "true"

namespace MarkupTag

/-- A whole number below `limit` in an attribute. -/
def natural? (t : MarkupTag) (limit : Nat) (name : String) : Option Nat :=
  (t.value? name).bind fun value => readNat? limit value.toList

/-- A number in an attribute. -/
def number? (t : MarkupTag) (name : String) : Option Float :=
  (t.value? name).bind fun value => readNumber? value.toList

/-- A region in an attribute. -/
def region? (t : MarkupTag) (name : String) : Option Region := (t.value? name).bind Region.parse?

end MarkupTag

/-- How many columns behind its first one a range of columns covers at most. The last range of a
sheet often reaches to the last column there is. -/
def columnRangeLimit : Nat := 255

namespace SheetLayout

/-- Takes in the height of a row, unless it is an automatic one. Rows are counted from 1. -/
def readRow (l : SheetLayout) (tag : MarkupTag) : SheetLayout :=
  match tag.natural? indexLimit "r", tag.number? "ht" with
  | some row, some height =>
    if isSwitchedOn (tag.value? "customHeight") ∧ 0 < row then
      { l with rowHeights := l.rowHeights.insert (row - 1) height }
    else l
  | _, _ => l

/-- Gives `count` columns from one on the same width. -/
def widen (width : Float) (widths : LineSizes) (first : Nat) : Nat → LineSizes
  | 0 => widths
  | count + 1 => widen width (widths.insert first width) (first + 1) count

/-- Takes in the width of a range of columns, which are counted from 1. -/
def readColumns (l : SheetLayout) (tag : MarkupTag) : SheetLayout :=
  match tag.natural? indexLimit "min", tag.natural? indexLimit "max", tag.number? "width" with
  | some low, some high, some width =>
    let first := max low 1
    let last := min high (first + columnRangeLimit)
    { l with columnWidths := widen width l.columnWidths (first - 1) (last + 1 - first) }
  | _, _, _ => l

/-- Takes in the style of a cell. -/
def readCell (l : SheetLayout) (tag : MarkupTag) : SheetLayout :=
  match (tag.natural? sizeLimit "s").getD 0, (tag.value? "r").bind fun r => Coord.parse? r.toList with
  | 0, _ => l
  | _, none => l
  | style, some place => { l with styles := l.styles.insert place style }

/-- Takes in an opening tag. -/
def read (l : SheetLayout) (tag : MarkupTag) : SheetLayout :=
  if isNamed tag.name "mergeCell" then
    { l with merged := l.merged ++ (tag.region? "ref").toList }
  else if isNamed tag.name "row" then l.readRow tag
  else if isNamed tag.name "col" then l.readColumns tag
  else if isNamed tag.name "c" then l.readCell tag
  else if isNamed tag.name "autoFilter" then { l with filter := tag.region? "ref" }
  else l

/-- Takes in an event. -/
def step (l : SheetLayout) : MarkupEvent → SheetLayout
  | .opening tag => l.read tag
  | _ => l

/-- The layout that the events of a part give. -/
def ofEvents (events : List MarkupEvent) : SheetLayout := events.foldl step {}

/-- The layout of the part of a sheet, if its markup is sound. -/
def ofMarkup? (text : String) : Option SheetLayout := (Markup.nestedEvents? text).map ofEvents

end SheetLayout

namespace Worksheet

/-- A sheet laid out anew. Cells get the styles that are registered; merged regions, sizes and the
filtered region are replaced. -/
def withLayout (w : Worksheet) (styles : StyleRegistry) (layout : SheetLayout) : Worksheet :=
  let styled := layout.styles.toList.foldl
    (fun w (place, style) => if styles.contains style then w.setStyle place style else w) w
  { styled with
    merged := layout.merged
    rowHeights := layout.rowHeights
    columnWidths := layout.columnWidths
    filter := layout.filter }

end Worksheet

end SheetPress
