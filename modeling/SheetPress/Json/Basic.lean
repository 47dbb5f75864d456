import SheetPress.Decimal.Text
import SheetPress.Json.Syntax

/-!
# JSON values

JSON values as data: whole numbers and floats are kept apart, and the members of an object are
sorted by name without repetitions. `Json.read?` reads a value from text and `Json.compact` writes
it on one line.
-/

namespace SheetPress

/-- A JSON number: a whole number where it was written as one and fits 64 bits, else a float. -/
inductive JsonNumber where
  | natural (n : Nat)
  | negative (magnitude : Nat)
  | float (x : Float)
  deriving Repr

/-- A JSON value. Members of objects are sorted by name, each name once. -/
inductive Json where
  | null
  | bool (value : Bool)
  | number (value : JsonNumber)
  | string (text : String)
  | array (items : List Json)
  | object (members : List (String × Json))
  deriving Repr, Inhabited

namespace JsonNumber

/-- The float nearest to a number. -/
def toFloat : JsonNumber → Float
  | natural n => Float.ofNat n
  | negative n => -(Float.ofNat n)
  | float x => x

/-! ## From digits to numbers -/

/-- Whether one more digit would carry a coefficient past 64 bits. -/
def overflows (coefficient : Nat) (digit : Char) : Bool :=
  coefficient * 10 + (digit.toNat - '0'.toNat) ≥ powerOfTwo 64

/-- Takes digits into a coefficient while it fits 64 bits; returns it with the digits left over. -/
def takeDigits (coefficient : Nat) : List Char → Nat × List Char
  | [] => (coefficient, [])
  | c :: rest =>
    if overflows coefficient c then (coefficient, c :: rest)
    else takeDigits (coefficient * 10 + (c.toNat - '0'.toNat)) rest

/-- A coefficient scaled by a power of ten, in floats: one multiplication or division by a power up
to `10 ^ 308`, after divisions by `10 ^ 308` for smaller numbers. Nothing when it overflows. -/
def scale? : Nat → Float → Int → Option Float
  | 0, _, _ => none
  | tries + 1, x, exponent =>
    if exponent.natAbs ≤ 308 then
      let power := Float.ofScientific 1 false exponent.natAbs
      if exponent ≥ 0 then
        if (x * power).isInf then none else some (x * power)
      else some (x / power)
    else if x == 0.0 then some x
    else if exponent ≥ 0 then none
    else scale? tries (x / 1e308) (exponent + 308)

/-- The float that a coefficient, an exponent and a sign stand for. -/
def ofParts? (negative : Bool) (coefficient : Nat) (exponent : Int) : Option Float :=
  (scale? 4 (Float.ofNat coefficient) exponent).map fun x => if negative then -x else x

/-- The meaning of a numeral. A coefficient keeps the digits that fit 64 bits; digits of the whole
part past those count as zeros, digits of the fraction past those are dropped. Nothing when the
number is too large for a float. -/
def ofNumeral? (numeral : Json.Numeral) : Option JsonNumber :=
  let (whole, extra) := takeDigits 0 numeral.whole
  match numeral.fraction, numeral.exponent, extra with
  | none, none, [] =>
    if !numeral.negative then some (.natural whole)
    else if whole = 0 ∨ whole > powerOfTwo 63 then some (.float (-(Float.ofNat whole)))
    else some (.negative whole)
  | fraction, exponent, extra =>
    let digits := fraction.getD []
    let (coefficient, dropped) := takeDigits whole digits
    let place := Int.ofNat extra.length - Int.ofNat (digits.length - dropped.length)
    match exponent with
    | none => (ofParts? numeral.negative coefficient place).map .float
    | some (small, exponentDigits) =>
      let size := digitsValue exponentDigits
      if size > 2147483647 then
        if coefficient ≠ 0 ∧ !small then none
        else some (.float (if numeral.negative then -0.0 else 0.0))
      else
        let shift := if small then -Int.ofNat size else Int.ofNat size
        (ofParts? numeral.negative coefficient (place + shift)).map .float

/-! ## Text -/

/-- The text of a float: always with a point or an exponent, positional from `1e-5` up to `1e16`,
with the fewest digits that read back; a tie goes to the even digit. -/
def floatText (x : Float) : String :=
  let d := shortestDecimal .even x
  let digits := Nat.toDigits 10 d.digits
  let point := Int.ofNat digits.length + d.exponent
  let magnitude :=
    if d.digits = 0 then ['0', '.', '0']
    else if -5 < point ∧ point ≤ 16 then
      if d.exponent ≥ 0 then d.positional ++ ['.', '0'] else d.positional
    else
      let lead := digits.take 1
      let tail := digits.drop 1
      let power := point - 1
      let sign := if power < 0 then '-' else '+'
      lead ++ (if tail.isEmpty then [] else '.' :: tail) ++ ['e', sign]
        ++ Nat.toDigits 10 power.natAbs
  String.ofList (if isNegativeFloat x then '-' :: magnitude else magnitude)

/-- The text of a number. -/
def text : JsonNumber → String
  | natural n => natText n
  | negative n => "-" ++ natText n
  | float x => floatText x

end JsonNumber

namespace Json

/-- A float as a value; infinities and what is not a number become null. -/
def ofFloat (x : Float) : Json := if x.isFinite then .number (.float x) else .null

/-! ## Objects -/

/-- Puts a member into a list sorted by name; a member of the same name is replaced. -/
def insertMember (name : String) (value : Json) : List (String × Json) → List (String × Json)
  | [] => [(name, value)]
  | (key, old) :: rest =>
    if name < key then (name, value) :: (key, old) :: rest
    else if name = key then (name, value) :: rest
    else (key, old) :: insertMember name value rest

/-- An object from members in any order; of members with one name the last counts. -/
def ofMembers (members : List (String × Json)) : Json :=
  .object (members.foldl (fun sorted (name, value) => insertMember name value sorted) [])

/-- The member of an object with a given name. -/
def member? (name : String) : Json → Option Json
  | object members => members.lookup name
  | _ => none

/-! ## Reading -/

mutual

/-- The meaning of a tree; nothing when it holds a number out of range or half a surrogate pair. -/
def ofSyntax? : Syntax → Option Json
  | .null => some .null
  | .bool b => some (.bool b)
  | .number numeral => (JsonNumber.ofNumeral? numeral).map .number
  | .string text => text.map .string
  | .array items => (ofItems? items).map .array
  | .object members => (ofMembers? members).map ofMembers

/-- The meanings of the items of an array. -/
def ofItems? : List Syntax → Option (List Json)
  | [] => some []
  | item :: rest => do
    let value ← ofSyntax? item
    let values ← ofItems? rest
    some (value :: values)

/-- The meanings of the members of an object. -/
def ofMembers? : List (Option String × Syntax) → Option (List (String × Json))
  | [] => some []
  | (name, item) :: rest => do
    let name ← name
    let value ← ofSyntax? item
    let values ← ofMembers? rest
    some ((name, value) :: values)

end

/-- Reads a value from text. -/
def read? (text : String) : Option Json := (Syntax.read? text).bind ofSyntax?

/-! ## Writing -/

/-- A hexadecimal digit. -/
def hexDigit (n : Nat) : Char := (Nat.toDigits 16 n).headD '0'

/-- A character inside a string: quotes, backslashes and control characters are escaped. -/
def escapeChar (c : Char) : List Char :=
  match c with
  | '"' => ['\\', '"']
  | '\\' => ['\\', '\\']
  | '\x08' => ['\\', 'b']
  | '\x0c' => ['\\', 'f']
  | '\n' => ['\\', 'n']
  | '\r' => ['\\', 'r']
  | '\t' => ['\\', 't']
  | c =>
    if c.toNat < 32 then ['\\', 'u', '0', '0', hexDigit (c.toNat / 16), hexDigit (c.toNat % 16)]
    else [c]

/-- A string in quotes. -/
def quote (text : String) : String :=
  String.ofList ('"' :: text.toList.flatMap escapeChar ++ ['"'])

mutual

/-- A value on one line without spaces. -/
def compact : Json → String
  | null => "null"
  | bool b => if b then "true" else "false"
  | number n => n.text
  | string text => quote text
  | array items => "[" ++ ",".intercalate (compactItems items) ++ "]"
  | object members => "\x7b" ++ ",".intercalate (compactMembers members) ++ "\x7d"

/-- The texts of the items of an array. -/
def compactItems : List Json → List String
  | [] => []
  | item :: rest => compact item :: compactItems rest

/-- The texts of the members of an object. -/
def compactMembers : List (String × Json) → List String
  | [] => []
  | (name, value) :: rest => (quote name ++ ":" ++ compact value) :: compactMembers rest

end

end Json

end SheetPress
