import SheetPress.Text.Basic

/-!
# Entities

In markup some characters stand as entities, such as `&amp;` or `&#38;`. `decodeEntities?` puts the
characters back, `encodeText` and `encodeAttribute` write the entities that a text or the value of an
attribute needs.
-/

namespace SheetPress

/-- The character that a named entity stands for. -/
def namedEntity? : List Char → Option Char
  | ['l', 't'] => some '<'
  | ['g', 't'] => some '>'
  | ['a', 'm', 'p'] => some '&'
  | ['a', 'p', 'o', 's'] => some '\''
  | ['q', 'u', 'o', 't'] => some '"'
  | _ => none

/-- The value of a hexadecimal digit in either case. -/
def entityDigit? (c : Char) : Option Nat :=
  if c.isDigit then some (c.toNat - '0'.toNat)
  else if 'a' ≤ c.toLower ∧ c.toLower ≤ 'f' then some (c.toLower.toNat - 'a'.toNat + 10)
  else none

/-- The number that digits spell in a base, if all of them are digits of it. -/
def readBase? (base : Nat) (digits : List Char) : Option Nat :=
  digits.foldlM (fun value c => do
    let digit ← entityDigit? c
    if digit < base then some (value * base + digit) else none) 0

/-- The character with a number; there is none for 0, for halves of surrogate pairs and past the end
of Unicode. -/
def charOfNumber? (n : Nat) : Option Char :=
  if n ≠ 0 ∧ n.isValidChar then some (Char.ofNat n) else none

/-- The character that a numbered entity stands for: at most seven decimal digits, or six
hexadecimal ones behind an `x`. -/
def numberedEntity? : List Char → Option Char
  | 'x' :: digits => if digits.length ≤ 6 then (readBase? 16 digits).bind charOfNumber? else none
  | digits => if digits.length ≤ 7 then (readBase? 10 digits).bind charOfNumber? else none

/-- The character that an entity stands for. -/
def entity? : List Char → Option Char
  | '#' :: number => numberedEntity? number
  | name => namedEntity? name

/-- Replaces entities by their characters. `pending` holds, in reverse order, the start of an entity
that is not closed yet. -/
def decodeFrom? (pending : Option (List Char)) : List Char → Option (List Char)
  | [] => if pending.isNone then some [] else none
  | c :: rest =>
    match pending with
    | none => if c = '&' then decodeFrom? (some []) rest else (decodeFrom? none rest).map (c :: ·)
    | some name =>
      if c = ';' then do
        let decoded ← entity? name.reverse
        let behind ← decodeFrom? none rest
        some (decoded :: behind)
      else if c = '&' then none
      else decodeFrom? (some (c :: name)) rest

/-- A text with its entities replaced by characters, if all of them are known. -/
def decodeEntities? (text : List Char) : Option (List Char) := decodeFrom? none text

/-- A character as it stands in a text. -/
def encodeTextChar (c : Char) : List Char :=
  match c with
  | '&' => ['&', 'a', 'm', 'p', ';']
  | '<' => ['&', 'l', 't', ';']
  | '>' => ['&', 'g', 't', ';']
  | c => [c]

/-- A character as it stands in the value of an attribute. -/
def encodeAttributeChar (c : Char) : List Char :=
  match c with
  | '"' => ['&', 'q', 'u', 'o', 't', ';']
  | '\n' => ['&', '#', 'x', 'A', ';']
  | c => encodeTextChar c

/-- A text with the entities it needs. -/
def encodeText (text : String) : String := String.ofList (text.toList.flatMap encodeTextChar)

/-- The value of an attribute with the entities it needs. -/
def encodeAttribute (value : String) : String :=
  String.ofList (value.toList.flatMap encodeAttributeChar)

end SheetPress
