import SheetPress.Text.CaseContext
import SheetPress.Text.CaseTable

/-!
# Upper and lower case of texts

Case changes of whole texts by the full mappings of Unicode: one character may become several
(`ß` becomes `SS`), and a capital sigma becomes `ς` at the end of a word and `σ` elsewhere.
-/

namespace SheetPress

/-- The case of a code point above ASCII by a table of runs and a table of expansions. -/
def mapCase (shifts : List CaseShift) (expansions : List (Nat × List Nat)) (c : Char) :
    List Char :=
  match expansions.lookup c.toNat with
  | some codes => codes.map Char.ofNat
  | none =>
    match shifts.findSome? (·.image? c.toNat) with
    | some code => [Char.ofNat code]
    | none => [c]

/-- Upper case of one character. -/
def upperChar (c : Char) : List Char :=
  if c.toNat < 128 then [c.toUpper] else mapCase upperShifts upperExpansions c

/-- Lower case of one character, taken out of its context. -/
def lowerChar (c : Char) : List Char :=
  if c.toNat < 128 then [c.toLower] else mapCase lowerShifts lowerExpansions c

/-- Upper case of a text. -/
def upperChars (text : List Char) : List Char := text.flatMap upperChar

/-- Whether a cased letter comes first, once the characters that case ignores are passed over. -/
def startsCased (text : List Char) : Bool :=
  match text.dropWhile (caseIgnorableRanges.contains ·.toNat) with
  | c :: _ => casedRanges.contains c.toNat
  | [] => false

/-- Lower case of the text that follows `before`, which is kept in reverse order. -/
def lowerAfter (before : List Char) : List Char → List Char
  | [] => []
  | c :: rest =>
    let here :=
      if c = 'Σ' then
        if startsCased before && !startsCased rest then ['ς'] else ['σ']
      else lowerChar c
    here ++ lowerAfter (c :: before) rest

/-- Lower case of a text. -/
def lowerChars (text : List Char) : List Char := lowerAfter [] text

/-- Upper case of a string. -/
def toUpperText (text : String) : String := String.ofList (upperChars text.toList)

/-- Lower case of a string. -/
def toLowerText (text : String) : String := String.ofList (lowerChars text.toList)

end SheetPress
