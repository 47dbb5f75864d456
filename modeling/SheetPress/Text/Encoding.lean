import SheetPress.Text.Basic
import SheetPress.Text.Surrogate

/-!
# Encodings

How the bytes of a document stand for characters. The texts at hand are decoded from UTF-8. If a
document declares another encoding, `Encoding.redecode?` decodes its texts anew from the same bytes.
-/

namespace SheetPress

/-- Which byte of a unit of two bytes comes first. -/
inductive ByteOrder where
  | low | high
  deriving DecidableEq, Repr, Inhabited

/-- A way in which bytes stand for characters. -/
inductive Encoding where
  | utf8
  | utf16 (first : ByteOrder)
  /-- One byte a character, ASCII below 128. The list has the code points of the bytes from 128 on,
  with 0 for those that stand for none. -/
  | bytewise (upper : List Nat)
  /-- Characters of several bytes, of which only those of ASCII can be read. -/
  | ascii
  /-- No text but the empty one can be read. -/
  | unreadable
  deriving DecidableEq, Repr, Inhabited

/-! ## Units of two bytes -/

/-- The number that two bytes make. -/
def ByteOrder.unit (first : ByteOrder) (a b : UInt8) : Nat :=
  match first with
  | low => a.toNat + 256 * b.toNat
  | high => 256 * a.toNat + b.toNat

/-- The units that bytes make in pairs, if no byte is left over. -/
def unitsOf? (first : ByteOrder) : List UInt8 → Option (List Nat)
  | [] => some []
  | [_] => none
  | a :: b :: rest => (unitsOf? first rest).map (first.unit a b :: ·)

/-- The characters of units in UTF-16, if all surrogates come in pairs. -/
def charsOfUnits? : List Nat → Option (List Char)
  | [] => some []
  | [unit] => if isHighSurrogate unit || isLowSurrogate unit then none else some [Char.ofNat unit]
  | unit :: next :: rest =>
    if isHighSurrogate unit && isLowSurrogate next then
      (charsOfUnits? rest).map (Char.ofNat (pairedCode unit next) :: ·)
    else if isHighSurrogate unit || isLowSurrogate unit then none
    else (charsOfUnits? (next :: rest)).map (Char.ofNat unit :: ·)

/-! ## Decoding -/

/-- The character of a byte, given the code points of the bytes from 128 on. -/
def charOfByte? (upper : List Nat) (byte : UInt8) : Option Char :=
  if byte.toNat < 128 then some (Char.ofNat byte.toNat)
  else
    match upper[byte.toNat - 128]? with
    | none => none
    | some 0 => none
    | some code => some (Char.ofNat code)

namespace Encoding

/-- A text given by its bytes. -/
def decode? (e : Encoding) (bytes : List UInt8) : Option (List Char) :=
  match e with
  | utf8 => (String.fromUTF8? ⟨bytes.toArray⟩).map String.toList
  | utf16 first => (unitsOf? first bytes).bind charsOfUnits?
  | bytewise upper => bytes.mapM (charOfByte? upper)
  | ascii => bytes.mapM (charOfByte? [])
  | unreadable => if bytes.isEmpty then some [] else none

/-- The text that the bytes of a text in UTF-8 stand for. -/
def redecode? (e : Encoding) (text : List Char) : Option (List Char) :=
  if e = utf8 then some text else e.decode? (String.ofList text).toUTF8.data.toList

end Encoding

end SheetPress
