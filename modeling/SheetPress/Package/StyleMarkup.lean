import SheetPress.Markup.Tree
import SheetPress.Style.Registry

/-!
# The markup of style tables

`styleTableMarkup` writes a registry as the style table of a package. The cell format at a position
describes the style with that number and refers to a font, a fill and borders of its own.
-/

namespace SheetPress

/-! ## What a package can say -/

namespace Color

/-- The color without transparency, which packages do not know. -/
def withoutAlpha (c : Color) : Color := { c with alpha := 255 }

end Color

/-- An edge as a package can say it: without a line there is no color. -/
def Edge.normalized (e : Edge) : Edge :=
  if e.line = .none then {} else { e with color := e.color.map (·.withoutAlpha) }

/-- Borders as a package can say them. -/
def Borders.normalized (b : Borders) : Borders where
  top := b.top.normalized
  right := b.right.normalized
  bottom := b.bottom.normalized
  left := b.left.normalized

/-- A fill as a package can say it. -/
def Fill.normalized : Fill → Fill
  | .none => .none
  | .solid color => .solid color.withoutAlpha

/-- A style as a package can say it: an empty number format is none. -/
def CellStyle.normalized (s : CellStyle) : CellStyle :=
  { s with
    font := { s.font with color := s.font.color.map (·.withoutAlpha) }
    fill := s.fill.normalized
    numberFormat := s.numberFormat.filter (· ≠ "")
    borders := s.borders.normalized }

/-! ## Elements -/

/-- The element of a color. -/
def colorNode (name : String) (c : Color) : MarkupNode := .leaf name [("rgb", c.argb)]

/-- An element that switches something on, if it is on. -/
def flagNodes (name : String) (on : Bool) : List MarkupNode := if on then [.leaf name []] else []

/-- The element of a font. -/
def fontNode (f : Font) : MarkupNode :=
  .element "font" [] (flagNodes "b" f.bold ++ flagNodes "i" f.italic
    ++ flagNodes "strike" f.strikethrough ++ flagNodes "u" f.underline
    ++ [.leaf "sz" [("val", numberText f.points)],
      (f.color.map (colorNode "color")).getD (.leaf "color" [("theme", "1")]),
      .leaf "name" [("val", f.family)]])

/-- The element of a pattern without colors. -/
def patternNode (pattern : String) : MarkupNode :=
  .element "fill" [] [.leaf "patternFill" [("patternType", pattern)]]

/-- The element of a fill. -/
def fillNode : Fill → MarkupNode
  | .none => patternNode "none"
  | .solid color => .element "fill" [] [.element "patternFill" [("patternType", "solid")]
      [colorNode "fgColor" color, .leaf "bgColor" [("indexed", "64")]]]

/-- The name of a border line, if it is one. -/
def BorderLine.name? : BorderLine → Option String
  | none => Option.none
  | thin => some "thin"
  | medium => some "medium"
  | thick => some "thick"
  | dashed => some "dashed"
  | dotted => some "dotted"
  | double => some "double"

/-- The element of an edge. -/
def edgeNode (side : String) (e : Edge) : MarkupNode :=
  match e.line.name? with
  | none => .leaf side []
  | some line => .element side [("style", line)]
      [(e.color.map (colorNode "color")).getD (.leaf "color" [("auto", "1")])]

/-- The element of the borders of a cell. -/
def bordersNode (b : Borders) : MarkupNode :=
  .element "border" [] [edgeNode "left" b.left, edgeNode "right" b.right, edgeNode "top" b.top,
    edgeNode "bottom" b.bottom, .leaf "diagonal" []]

/-- What the alignment of a style differs in from the usual one. -/
def alignmentValues (s : CellStyle) : List (String × String) :=
  let horizontal := match s.horizontal with
    | .general => []
    | .left => [("horizontal", "left")]
    | .center => [("horizontal", "center")]
    | .right => [("horizontal", "right")]
  let vertical := match s.vertical with
    | .top => [("vertical", "top")]
    | .middle => [("vertical", "center")]
    | .bottom => []
  horizontal ++ vertical ++ (if s.wrapText then [("wrapText", "1")] else [])

/-! ## The table -/

/-- The number from which on number formats are declared. -/
def firstDeclaredFormat : Nat := 164

/-- The fills that every style table begins with. -/
def reservedFills : List MarkupNode := [patternNode "none", patternNode "gray125"]

/-- The declaration of the number format of a style, if it has one. -/
def numberFormatNodes (position : Nat) (s : CellStyle) : List MarkupNode :=
  match s.numberFormat with
  | none => []
  | some code => [.leaf "numFmt"
      [("numFmtId", natText (firstDeclaredFormat + position)), ("formatCode", code)]]

/-- The element of a cell format. -/
def cellFormatNode (position : Nat) (s : CellStyle) : MarkupNode :=
  let numberFormat := if s.numberFormat.isSome then firstDeclaredFormat + position else 0
  let values := [("numFmtId", natText numberFormat), ("fontId", natText position),
    ("fillId", natText (reservedFills.length + position)), ("borderId", natText position),
    ("xfId", "0")]
  .element "xf" values
    (if (alignmentValues s).isEmpty then [] else [.leaf "alignment" (alignmentValues s)])

/-- The markup of a style table. -/
def styleTableMarkup (styles : List CellStyle) : String :=
  renderDocument (.element "styleSheet" []
    [.counted "numFmts" (styles.zipIdx.flatMap fun (s, position) => numberFormatNodes position s),
      .counted "fonts" (styles.map fun s => fontNode s.font),
      .counted "fills" (reservedFills ++ styles.map fun s => fillNode s.fill),
      .counted "borders" (styles.map fun s => bordersNode s.borders),
      .counted "cellXfs" (styles.zipIdx.map fun (s, position) => cellFormatNode position s)])

end SheetPress
