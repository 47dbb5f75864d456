import SheetPress.Decimal.Shortest
import SheetPress.Text.Basic

/-!
# Decimal text

Writing and reading decimals. `numberText` writes every number positionally with the fewest digits
that read back; `readNumber?` reads a decimal with an optional sign, fraction and exponent, and the
names of infinity and of the value that is not a number.
-/

namespace SheetPress

/-- A decimal written with its point in place, as in `120`, `1.5` and `0.0025`. -/
def Decimal.positional (d : Decimal) : List Char :=
  let digits := Nat.toDigits 10 d.digits
  let point := Int.ofNat digits.length + d.exponent
  if d.exponent ≥ 0 then digits ++ List.replicate d.exponent.toNat '0'
  else if point > 0 then digits.take point.toNat ++ '.' :: digits.drop point.toNat
  else '0' :: '.' :: List.replicate (-point).toNat '0' ++ digits

/-- Whether the sign bit of a float is set. -/
def isNegativeFloat (x : Float) : Bool := x.toBits.toNat / powerOfTwo 63 == 1

/-- The shortest decimal of a finite float, without its sign. -/
def shortestDecimal (tie : Tie) (x : Float) : Decimal :=
  (Binary.ofBits x.toBits.toNat).shortest tie

/-- The text of a number: positional, with the fewest digits that read back; a tie goes up. -/
def numberText (x : Float) : String :=
  if x.isNaN then "NaN"
  else
    let sign := if isNegativeFloat x then ['-'] else []
    let magnitude := if x.isInf then ['i', 'n', 'f'] else (shortestDecimal .up x).positional
    String.ofList (sign ++ magnitude)

/-! ## Reading -/

/-- The float nearest to a decimal. Decimals far outside the range of floats go to infinity or zero
without being expanded. -/
def Decimal.toFloat (d : Decimal) : Float :=
  let top := Int.ofNat (digitCount d.digits) + d.exponent
  if d.digits = 0 then 0.0
  else if top > 310 then 1.0 / 0.0
  else if top < -330 then 0.0
  else if d.exponent ≥ 0 then Float.ofScientific d.digits false d.exponent.toNat
  else Float.ofScientific d.digits true (-d.exponent).toNat

/-- The exponent of a decimal, `e` or `E` with an optionally signed whole number, up to the end of
the text; no exponent at all counts as zero. -/
def readExponent? : List Char → Option Int
  | [] => some 0
  | mark :: rest =>
    if mark = 'e' ∨ mark = 'E' then
      let (negative, digits) := match rest with
        | '-' :: more => (true, more)
        | '+' :: more => (false, more)
        | more => (false, more)
      if digits ≠ [] ∧ digits.all isAsciiDigit then
        let value := Int.ofNat (digitsValue digits)
        some (if negative then -value else value)
      else none
    else none

/-- An unsigned decimal: digits with at most one point among, before or after them, then an
optional exponent. -/
def readDecimal? (text : List Char) : Option Decimal :=
  let whole := text.takeWhile isAsciiDigit
  let afterWhole := text.dropWhile isAsciiDigit
  let (fraction, tail) := match afterWhole with
    | '.' :: rest => (rest.takeWhile isAsciiDigit, rest.dropWhile isAsciiDigit)
    | rest => ([], rest)
  if whole = [] ∧ fraction = [] then none
  else (readExponent? tail).map fun exponent =>
    ⟨digitsValue (whole ++ fraction), exponent - Int.ofNat fraction.length⟩

/-- An unsigned number: a decimal, or one of the names `inf`, `infinity` and `nan` in any case. -/
def readMagnitude? (text : List Char) : Option Float :=
  let name := text.map Char.toLower
  if name = ['i', 'n', 'f'] ∨ name = ['i', 'n', 'f', 'i', 'n', 'i', 't', 'y'] then
    some (1.0 / 0.0)
  else if name = ['n', 'a', 'n'] then some (0.0 / 0.0)
  else (readDecimal? text).map Decimal.toFloat

/-- Reads a number with an optional sign. -/
def readNumber? : List Char → Option Float
  | '-' :: rest => (readMagnitude? rest).map fun x => -x
  | '+' :: rest => readMagnitude? rest
  | rest => readMagnitude? rest

/-- Reads a whole number below `limit`, written in ASCII digits with an optional plus sign. -/
def readNat? (limit : Nat) (text : List Char) : Option Nat :=
  let digits := match text with
    | '+' :: rest => rest
    | rest => rest
  if digits ≠ [] ∧ digits.all isAsciiDigit then
    let value := digitsValue digits
    if value < limit then some value else none
  else none

/-! ## Float arithmetic that formulas rely on -/

/-- Whether a float is finite and whole. -/
def isWhole (x : Float) : Bool := x.isFinite && x.floor == x

/-- The integer part of a float, toward zero. -/
def truncate (x : Float) : Float := if x < 0.0 then x.ceil else x.floor

/-- A float as a natural number below `2 ^ 32`, cut toward zero and clamped; not a number is 0. -/
def clampNat32 (x : Float) : Nat := x.toUInt32.toNat

/-- A float as a natural number below `2 ^ 64`, cut toward zero and clamped; not a number is 0. -/
def clampNat64 (x : Float) : Nat := x.toUInt64.toNat

/-- A float as an integer of 32 bits, cut toward zero and clamped; not a number is 0. -/
def clampInt32 (x : Float) : Int := x.toInt32.toInt

/-- A float as an integer of 64 bits, cut toward zero and clamped; not a number is 0. -/
def clampInt64 (x : Float) : Int := x.toInt64.toInt

end SheetPress
