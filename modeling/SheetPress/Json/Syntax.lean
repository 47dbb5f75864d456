import SheetPress.Text.Basic
import SheetPress.Text.Surrogate

/-!
# JSON texts

The syntax tree of a JSON text and its reader. A tree keeps what the text says before it is given a
meaning: numbers by their digits, members of objects in order and with repetitions, and strings
whose escapes do not make a text as absent. `Json.Syntax.read?` reads a whole text.
-/

namespace SheetPress.Json

/-- A number as written: sign, digits before and after the point, and exponent. -/
structure Numeral where
  negative : Bool
  whole : List Char
  /-- The digits after the point, if there is a point. -/
  fraction : Option (List Char)
  /-- The sign and digits of the exponent, if there is one. -/
  exponent : Option (Bool × List Char)
  deriving Repr

/-- A JSON text as a tree. A string is absent when its escapes name half of a surrogate pair. -/
inductive Syntax where
  | null
  | bool (value : Bool)
  | number (numeral : Numeral)
  | string (text : Option String)
  | array (items : List Syntax)
  | object (members : List (Option String × Syntax))
  deriving Repr

namespace Syntax

/-- White space between the parts of a JSON text. -/
def isSpace (c : Char) : Bool := c = ' ' || c = '\n' || c = '\t' || c = '\r'

/-- The text without leading white space. -/
def skipSpace (text : List Char) : List Char := text.dropWhile isSpace

/-- The value of a hexadecimal digit. -/
def hexValue? (c : Char) : Option Nat :=
  if c.isDigit then some (c.toNat - '0'.toNat)
  else if 'a' ≤ c ∧ c ≤ 'f' then some (c.toNat - 'a'.toNat + 10)
  else if 'A' ≤ c ∧ c ≤ 'F' then some (c.toNat - 'A'.toNat + 10)
  else none

/-- The 16-bit unit written by four hexadecimal digits. -/
def hexUnit? : List Char → Option (Nat × List Char)
  | a :: b :: c :: d :: rest => do
    let a ← hexValue? a
    let b ← hexValue? b
    let c ← hexValue? c
    let d ← hexValue? d
    some (4096 * a + 256 * b + 16 * c + d, rest)
  | _ => none

/-- One piece of a string: a character, or a unit written as an escape. -/
inductive StringPiece where
  | char (c : Char)
  | unit (value : Nat)
  deriving Repr

/-- The character behind a backslash followed by a single letter. -/
def shortEscape? : Char → Option Char
  | '"' => some '"'
  | '\\' => some '\\'
  | '/' => some '/'
  | 'b' => some '\x08'
  | 'f' => some '\x0c'
  | 'n' => some '\n'
  | 'r' => some '\r'
  | 't' => some '\t'
  | _ => none

/-- The pieces of a string up to its closing quote, and the text behind the quote. -/
def stringPieces? : Nat → List Char → Option (List StringPiece × List Char)
  | 0, _ => none
  | _, [] => none
  | _, '"' :: rest => some ([], rest)
  | fuel + 1, '\\' :: 'u' :: rest => do
    let (value, rest) ← hexUnit? rest
    let (pieces, rest) ← stringPieces? fuel rest
    some (.unit value :: pieces, rest)
  | fuel + 1, '\\' :: c :: rest => do
    let c ← shortEscape? c
    let (pieces, rest) ← stringPieces? fuel rest
    some (.char c :: pieces, rest)
  | fuel + 1, c :: rest =>
    if c.toNat < 32 then none
    else do
      let (pieces, rest) ← stringPieces? fuel rest
      some (.char c :: pieces, rest)

/-- Joins pieces to a text. Units of a surrogate pair must stand side by side. -/
def joinPieces? : List StringPiece → Option (List Char)
  | [] => some []
  | .char c :: rest => (joinPieces? rest).map (c :: ·)
  | .unit high :: rest =>
    if isHighSurrogate high then
      match rest with
      | .unit low :: rest =>
        if isLowSurrogate low then
          (joinPieces? rest).map (Char.ofNat (pairedCode high low) :: ·)
        else none
      | _ => none
    else if isLowSurrogate high then none
    else (joinPieces? rest).map (Char.ofNat high :: ·)

/-- A string behind its opening quote. -/
def stringBody? (text : List Char) : Option (Option String × List Char) :=
  (stringPieces? (text.length + 1) text).map fun (pieces, rest) =>
    ((joinPieces? pieces).map String.ofList, rest)

/-- The fraction of a number: a point with at least one digit, or nothing. -/
def fraction? : List Char → Option (Option (List Char) × List Char)
  | '.' :: rest =>
    let digits := rest.takeWhile isAsciiDigit
    if digits.isEmpty then none else some (some digits, rest.dropWhile isAsciiDigit)
  | rest => some (none, rest)

/-- The exponent of a number: a mark, perhaps a sign, and at least one digit, or nothing. -/
def exponent? (text : List Char) : Option (Option (Bool × List Char) × List Char) :=
  let signed (rest : List Char) : Option (Option (Bool × List Char) × List Char) :=
    let (negative, rest) := match rest with
      | '-' :: more => (true, more)
      | '+' :: more => (false, more)
      | more => (false, more)
    let digits := rest.takeWhile isAsciiDigit
    if digits.isEmpty then none
    else some (some (negative, digits), rest.dropWhile isAsciiDigit)
  match text with
  | 'e' :: rest => signed rest
  | 'E' :: rest => signed rest
  | rest => some (none, rest)

/-- A number. Its whole part has no leading zero. -/
def numeral? (text : List Char) : Option (Numeral × List Char) := do
  let (negative, rest) := match text with
    | '-' :: rest => (true, rest)
    | rest => (false, rest)
  let (whole, rest) ← match rest with
    | '0' :: rest =>
      match rest with
      | c :: _ => if isAsciiDigit c then none else some (['0'], rest)
      | [] => some (['0'], rest)
    | rest =>
      let digits := rest.takeWhile isAsciiDigit
      if digits.isEmpty then none else some (digits, rest.dropWhile isAsciiDigit)
  let (fraction, rest) ← fraction? rest
  let (exponent, rest) ← exponent? rest
  some (⟨negative, whole, fraction, exponent⟩, rest)

mutual

/-- A value at the start of a text, and the text behind it. -/
def value? : Nat → List Char → Option (Syntax × List Char)
  | 0, _ => none
  | fuel + 1, text =>
    match skipSpace text with
    | 'n' :: 'u' :: 'l' :: 'l' :: rest => some (.null, rest)
    | 't' :: 'r' :: 'u' :: 'e' :: rest => some (.bool true, rest)
    | 'f' :: 'a' :: 'l' :: 's' :: 'e' :: rest => some (.bool false, rest)
    | '"' :: rest => (stringBody? rest).map fun (text, rest) => (.string text, rest)
    | '[' :: rest =>
      match skipSpace rest with
      | ']' :: rest => some (.array [], rest)
      | rest => (items? fuel rest).map fun (items, rest) => (.array items, rest)
    | '{' :: rest =>
      match skipSpace rest with
      | '}' :: rest => some (.object [], rest)
      | rest => (members? fuel rest).map fun (members, rest) => (.object members, rest)
    | rest => (numeral? rest).map fun (numeral, rest) => (.number numeral, rest)

/-- The items of an array up to its closing bracket. -/
def items? : Nat → List Char → Option (List Syntax × List Char)
  | 0, _ => none
  | fuel + 1, text => do
    let (item, rest) ← value? fuel text
    match skipSpace rest with
    | ']' :: rest => some ([item], rest)
    | ',' :: rest =>
      let (items, rest) ← items? fuel rest
      some (item :: items, rest)
    | _ => none

/-- The members of an object up to its closing brace. -/
def members? : Nat → List Char → Option (List (Option String × Syntax) × List Char)
  | 0, _ => none
  | fuel + 1, text =>
    match skipSpace text with
    | '"' :: rest => do
      let (name, rest) ← stringBody? rest
      match skipSpace rest with
      | ':' :: rest =>
        let (value, rest) ← value? fuel rest
        match skipSpace rest with
        | '}' :: rest => some ([(name, value)], rest)
        | ',' :: rest =>
          let (members, rest) ← members? fuel rest
          some ((name, value) :: members, rest)
        | _ => none
      | _ => none
    | _ => none

end

/-- Reads a whole text as one value. -/
def read? (text : String) : Option Syntax :=
  let chars := text.toList
  match value? (chars.length + 1) chars with
  | some (value, rest) => if (skipSpace rest).isEmpty then some value else none
  | none => none

end Syntax

end SheetPress.Json
