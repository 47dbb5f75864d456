import SheetPress.Package.SheetMarkup
import SheetPress.Text.CaseMap

/-!
# Writing workbooks

`Workbook.save` writes a workbook into a package: a part for every sheet, the style table, the texts
that cells share, and the parts that say what is where. Styles that look the same in a package share a
number, and so do equal texts.
-/

namespace SheetPress

/-! ## Names of sheets -/

/-- The longest name of a sheet. -/
def maxSheetNameLength : Nat := 31

/-- Characters that names of sheets do not have. -/
def forbiddenInSheetName : List Char := ['[', ']', ':', '*', '?', '/', '\\']

/-- Whether a text can be the name of a sheet in a package. -/
def isSheetName (name : String) : Bool :=
  !name.isEmpty && name.length ≤ maxSheetNameLength
    && name.toList.all (fun c => !forbiddenInSheetName.contains c)
    && name.toList.head? ≠ some '\'' && name.toList.getLast? ≠ some '\''

/-- Checks the names of sheets, which differ in more than the case of letters. `seen` are names in
lower case that were used before. -/
def checkSheetNames (seen : List String) : List String → Except WriteFault Unit
  | [] => .ok ()
  | name :: rest =>
    if !isSheetName name then .error (.badSheetName name)
    else if seen.contains (toLowerText name) then .error (.repeatedSheetName name)
    else checkSheetNames (toLowerText name :: seen) rest

/-! ## Texts -/

/-- Whether a text is a series of runs in markup. -/
def isRuns (text : String) : Bool := text.startsWith "<r>" && text.endsWith "</r>"

/-- Whether white space at an end of a text has to be kept. -/
def hasOuterBlank (text : List Char) : Bool :=
  (text.head?.any isBlank) || (text.getLast?.any isBlank)

/-- The element of a plain text. -/
def plainTextNode (text : List Char) : MarkupNode :=
  let kept := if hasOuterBlank text then [("xml:space", "preserve")] else []
  .element "t" kept [.text (String.ofList text)]

/-- The entry of a text among those that cells share. A text that is a series of runs is written as
such. -/
def textNode (text : String) : MarkupNode :=
  .element "si" []
    [if isRuns text then .raw text else plainTextNode (codeText text.toList)]

/-- The markup of the texts that cells share. -/
def sharedTextMarkup (texts : List String) : String :=
  renderDocument (.counted "sst" (texts.map textNode))

/-! ## Parts -/

/-- The file of a sheet by its position. -/
def sheetFile (position : Nat) : String := "worksheets/sheet" ++ natText (position + 1) ++ ".xml"

/-- The id of the relation of a sheet by its position. -/
def sheetRelation (position : Nat) : String := "rId" ++ natText (position + 1)

/-- The markup of the list of sheets. -/
def workbookMarkup (names : List String) : String :=
  renderDocument (.element "workbook" [] [.element "sheets" []
    (names.zipIdx.map fun (name, position) => .leaf "sheet" [("name", name),
      ("sheetId", natText (position + 1)), ("r:id", sheetRelation position)])])

/-- The markup of the relations of a workbook with a number of sheets. -/
def relationsMarkup (count : Nat) : String :=
  renderDocument (.element "Relationships" []
    ((List.range count).map fun position => .leaf "Relationship"
      [("Id", sheetRelation position), ("Target", sheetFile position)]))

namespace Workbook

/-- The workbook with an empty sheet if it has none. -/
def withSomeSheet (b : Workbook) : Workbook :=
  if b.sheets.isEmpty then b.addSheet "Sheet1" else b

/-- The styles of a workbook with their numbers in a package. -/
def writtenStyles (b : Workbook) : StyleRegistry :=
  (b.sheets.flatMap (·.usedStyles b.styles)).foldl (fun r style => (r.getOrCreate style).2) .initial

/-- Writes a workbook that has sheets. -/
def saveSheets (b : Workbook) : Except WriteFault Package := do
  checkSheetNames [] b.sheetNames
  let sheets ← b.sheets.mapM (·.written b.styles)
  let styles := b.writtenStyles
  let texts := TextNumbers.ofTexts (sheets.flatMap (·.texts))
  .ok ⟨[(Package.workbookPart, workbookMarkup b.sheetNames),
      (Package.relationsPart, relationsMarkup sheets.length),
      (Package.stylesPart, styleTableMarkup styles.styles.toList),
      (Package.textsPart, sharedTextMarkup texts.reversed.reverse)]
    ++ sheets.zipIdx.map fun (sheet, position) =>
      ("xl/" ++ sheetFile position, sheetMarkup styles texts sheet)⟩

/-- Writes a workbook into a package. -/
def save (b : Workbook) : Except PackageError Package :=
  b.withSomeSheet.saveSheets.mapError .unwritable

end Workbook

end SheetPress
