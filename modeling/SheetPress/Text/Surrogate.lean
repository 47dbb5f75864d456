/-!
# Surrogates

Units of 16 bits cannot number all characters. Those past the first 65536 are written as a pair of
units from two areas that are kept free of characters.
-/

namespace SheetPress

/-- Whether a unit is the first half of a pair of surrogates. -/
def isHighSurrogate (unit : Nat) : Bool := 0xD800 ≤ unit && unit < 0xDC00

/-- Whether a unit is the second half of a pair of surrogates. -/
def isLowSurrogate (unit : Nat) : Bool := 0xDC00 ≤ unit && unit < 0xE000

/-- The code point of a pair of surrogates. -/
def pairedCode (high low : Nat) : Nat := 0x10000 + 0x400 * (high - 0xD800) + (low - 0xDC00)

end SheetPress
