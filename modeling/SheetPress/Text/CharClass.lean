import SheetPress.Text.Alphabetic
import SheetPress.Text.Mark
import SheetPress.Text.Numeric
import SheetPress.Text.Recent
import SheetPress.Text.Script

/-!
# Character classes

The classes of characters that formulas, templates and labels tell apart. All of them range over
the whole of Unicode; on ASCII they agree with the usual letters, digits and blanks. Letters and
numerals are those of Unicode 17; the digits of references and the characters of names are those of
Unicode 16.
-/

namespace SheetPress

/-- White space: blanks, tabs, line ends and the other characters with the property White_Space. -/
def isBlank (c : Char) : Bool := whiteSpaceRanges.contains c.toNat

/-- Letters of any script. -/
def isLetter (c : Char) : Bool := alphabeticRanges.contains c.toNat

/-- Decimal digits of any script, but for recent ones. -/
def isDecimalDigit (c : Char) : Bool := decimalDigitRanges.contains c.toNat

/-- Letters and numerals of any script. -/
def isAlphanumeric (c : Char) : Bool := isLetter c || numericRanges.contains c.toNat

/-- Whether a character is among the recent ones. -/
def isRecent (c : Char) : Bool := recentRanges.contains c.toNat

/-- Characters that words are made of: letters, decimal digits, marks, connectors such as `_`, and
the joining controls, but for recent ones. -/
def isWordChar (c : Char) : Bool :=
  (isLetter c || isDecimalDigit c || connectorRanges.contains c.toNat
    || markRanges.contains c.toNat || joinControlRanges.contains c.toNat) && !isRecent c

/-- Characters of the Han script, but for recent ones. -/
def isHan (c : Char) : Bool := hanRanges.contains c.toNat

/-- The letters `A` to `Z` and `a` to `z`. -/
def isAsciiLetter (c : Char) : Bool := c.isAlpha

/-- The digits `0` to `9`. -/
def isAsciiDigit (c : Char) : Bool := c.isDigit

end SheetPress
