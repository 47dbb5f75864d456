import SheetPress.Decimal.Text

/-!
# Cell styles

Fonts, fills, borders and alignment of cells, with colors and their spellings.
-/

namespace SheetPress

/-! ## Colors -/

/-- A color with its opacity, 255 being opaque. -/
structure Color where
  red : UInt8
  green : UInt8
  blue : UInt8
  alpha : UInt8 := 255
  deriving DecidableEq, Repr

namespace Color

/-- The color of ink. -/
def black : Color := ⟨0, 0, 0, 255⟩

/-- The color of paper. -/
def white : Color := ⟨255, 255, 255, 255⟩

/-- The value of a hexadecimal digit in either case. -/
def hexDigitValue? (c : Char) : Option Nat :=
  if c.isDigit then some (c.toNat - '0'.toNat)
  else if 'a' ≤ c.toLower ∧ c.toLower ≤ 'f' then some (c.toLower.toNat - 'a'.toNat + 10)
  else none

/-- One channel in two hexadecimal digits, or in one behind a plus sign. -/
def channel? (first second : Char) : Option UInt8 := do
  let low ← hexDigitValue? second
  if first = '+' then some (UInt8.ofNat low)
  else
    let high ← hexDigitValue? first
    some (UInt8.ofNat (16 * high + low))

/-- Reads `RRGGBB` or `AARRGGBB`, perhaps behind number signs and with white space around. -/
def ofHex? (text : String) : Option Color :=
  match (trimChars text.toList).dropWhile (· = '#') with
  | [r₁, r₂, g₁, g₂, b₁, b₂] => do
    let red ← channel? r₁ r₂
    let green ← channel? g₁ g₂
    let blue ← channel? b₁ b₂
    some { red, green, blue }
  | [a₁, a₂, r₁, r₂, g₁, g₂, b₁, b₂] => do
    let alpha ← channel? a₁ a₂
    let red ← channel? r₁ r₂
    let green ← channel? g₁ g₂
    let blue ← channel? b₁ b₂
    some { red, green, blue, alpha }
  | _ => none

/-- A channel in two upper-case hexadecimal digits. -/
def channelText (value : UInt8) : List Char :=
  (Nat.toDigits 16 (256 + value.toNat)).tail.map Char.toUpper

/-- The spelling `RRGGBB`. -/
def hex (c : Color) : String :=
  String.ofList (channelText c.red ++ channelText c.green ++ channelText c.blue)

/-- The spelling `AARRGGBB`. -/
def argb (c : Color) : String := String.ofList (channelText c.alpha) ++ c.hex

/-- The three color channels as one number, red first. -/
def rgbNumber (c : Color) : Nat := c.red.toNat * 65536 + c.green.toNat * 256 + c.blue.toNat

end Color

/-! ## The parts of a style -/

/-- Horizontal alignment. -/
inductive HorizontalAlign where
  | general | left | center | right
  deriving DecidableEq, Repr

/-- Vertical alignment. -/
inductive VerticalAlign where
  | top | middle | bottom
  deriving DecidableEq, Repr

/-- The background of a cell. -/
inductive Fill where
  | none
  | solid (color : Color)
  deriving DecidableEq, Repr

/-- Kinds of border lines. -/
inductive BorderLine where
  | none | thin | medium | thick | dashed | dotted | double
  deriving DecidableEq, Repr

/-- The border line that a style name of a workbook file stands for. -/
def BorderLine.ofName (name : String) : BorderLine :=
  match name with
  | "thin" | "hair" => thin
  | "medium" | "mediumDashed" | "mediumDashDot" => medium
  | "thick" => thick
  | "dashed" | "dashDot" | "dashDotDot" => dashed
  | "dotted" => dotted
  | "double" => double
  | _ => none

/-- One edge of a cell. -/
structure Edge where
  line : BorderLine := .none
  color : Option Color := none
  deriving DecidableEq, Repr

/-- The four edges of a cell. -/
structure Borders where
  top : Edge := {}
  right : Edge := {}
  bottom : Edge := {}
  left : Edge := {}
  deriving DecidableEq, Repr

/-- A font. Its size is in hundredths of a point; without a color it is written in the automatic
one. -/
structure Font where
  family : String := "Calibri"
  centipoints : Nat := 1100
  bold : Bool := false
  italic : Bool := false
  underline : Bool := false
  strikethrough : Bool := false
  color : Option Color := none
  deriving DecidableEq, Repr

namespace Font

/-- The size in points. -/
def points (f : Font) : Float := Float.ofNat f.centipoints / 100.0

/-- A size in points as hundredths of a point: rounded, at least 0, and within 32 bits. -/
def centipointsOf (points : Float) : Nat := clampNat32 (points * 100.0).round

/-- The same font in a size given in points. -/
def withPoints (f : Font) (points : Float) : Font := { f with centipoints := centipointsOf points }

end Font

/-- A complete style. Without a number format, numbers are shown as they are. -/
structure CellStyle where
  font : Font := {}
  fill : Fill := .none
  horizontal : HorizontalAlign := .general
  vertical : VerticalAlign := .bottom
  wrapText : Bool := false
  numberFormat : Option String := none
  borders : Borders := {}
  deriving DecidableEq, Repr

end SheetPress
