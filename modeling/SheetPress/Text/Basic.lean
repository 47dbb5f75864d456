import SheetPress.Text.CharClass

/-!
# Texts

Trimming, cutting and searching of texts. Each function has a form on lists of characters, which is
the one to reason about, and most have one on strings.
-/

namespace SheetPress

theorem length_dropWhile_le (p : Char → Bool) (text : List Char) :
    (text.dropWhile p).length ≤ text.length :=
  (List.dropWhile_sublist p).length_le

/-- A text without the white space at its start. -/
def trimStartChars (text : List Char) : List Char := text.dropWhile isBlank

/-- A text without the white space at its end. -/
def trimEndChars (text : List Char) : List Char := (text.reverse.dropWhile isBlank).reverse

/-- A text without the white space at both ends. -/
def trimChars (text : List Char) : List Char := trimEndChars (trimStartChars text)

/-- A string without the white space at both ends. -/
def trimText (text : String) : String := String.ofList (trimChars text.toList)

/-- Whether a string is empty or white space only. -/
def isBlankText (text : String) : Bool := text.toList.all isBlank

/-- The text after `lead`, if it begins with it. -/
def dropLead? : List Char → List Char → Option (List Char)
  | [], text => some text
  | _ :: _, [] => none
  | p :: lead, c :: text => if p = c then dropLead? lead text else none

/-- The text in front of the first occurrence of `mark` and the text behind it. -/
def splitAtFirst? (mark : List Char) : List Char → Option (List Char × List Char)
  | [] => if mark.isEmpty then some ([], []) else none
  | c :: rest =>
    match dropLead? mark (c :: rest) with
    | some behind => some ([], behind)
    | none => (splitAtFirst? mark rest).map fun (front, behind) => (c :: front, behind)

/-- Whether `mark` occurs in a text. -/
def occursIn (mark text : List Char) : Bool := (splitAtFirst? mark text).isSome

/-- The words of a text, where white space separates words; `word` holds the start of the current
word in reverse order. -/
def wordsFrom (word : List Char) : List Char → List (List Char)
  | [] => if word.isEmpty then [] else [word.reverse]
  | c :: rest =>
    if isBlank c then
      if word.isEmpty then wordsFrom [] rest else word.reverse :: wordsFrom [] rest
    else wordsFrom (c :: word) rest

/-- The words of a string, in order. -/
def wordsOf (text : String) : List String := (wordsFrom [] text.toList).map String.ofList

/-- The number of bytes of a string in UTF-8. -/
def byteCount (text : String) : Nat := text.utf8ByteSize

/-- Decimal digits of a natural number as text. -/
def natText (n : Nat) : String := String.ofList (Nat.toDigits 10 n)

/-- Value of a run of the digits `0` to `9`. -/
def digitsValue (digits : List Char) : Nat :=
  digits.foldl (fun value c => 10 * value + (c.toNat - '0'.toNat)) 0

end SheetPress
