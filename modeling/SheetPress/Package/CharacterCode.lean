import SheetPress.Markup.Entity

/-!
# Characters by their numbers

The markup of a package cannot hold control characters, so texts have codes such as `_x000D_` in
their place. `codeControls` writes these codes. `codeText` also writes the first character of what
looks like a code, so that it is not taken for one.
-/

namespace SheetPress

/-- A number in four upper-case hexadecimal digits. -/
def fourHexDigits (n : Nat) : List Char :=
  (Nat.toDigits 16 (65536 + n)).tail.map Char.toUpper

/-- The code of a character by its number. -/
def characterCode (c : Char) : List Char := '_' :: 'x' :: (fourHexDigits c.toNat ++ ['_'])

/-- Whether a character is a control character other than a tab or a line end. -/
def isControl (c : Char) : Bool := c.toNat < 32 && c ≠ '\t' && c ≠ '\n'

/-- A character as it stands in markup, control characters by their codes. -/
def codeControl (c : Char) : List Char := if isControl c then characterCode c else [c]

/-- A text with its control characters as codes. -/
def codeControls (text : List Char) : List Char := text.flatMap codeControl

/-- Whether a text begins with something like a code: an underscore, an `x`, four hexadecimal digits
and any character behind them. -/
def startsLikeCode : List Char → Bool
  | '_' :: 'x' :: a :: b :: c :: d :: _ :: _ => [a, b, c, d].all fun c => (entityDigit? c).isSome
  | _ => false

/-- A text with its control characters as codes, and with the first character of whatever looks like
a code written as one. -/
def codeText : List Char → List Char
  | [] => []
  | c :: rest =>
    (if startsLikeCode (c :: rest) then characterCode c else codeControl c) ++ codeText rest

end SheetPress
