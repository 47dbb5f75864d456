import SheetPress.Coord.Region
import SheetPress.Markup.Walk

/-!
# Packages

A workbook file is a package of parts, each a document with a name such as `xl/workbook.xml`. This
file holds packages, the names of the parts that every workbook has, and what can go wrong when a
workbook is read from a package or written into one.
-/

namespace SheetPress

/-- A package: the texts of its parts by name. -/
structure Package where
  parts : List (String × String)
  deriving DecidableEq, Repr

namespace Package

/-- The part with a name. -/
def part? (p : Package) (name : String) : Option String := p.parts.lookup name

/-- Whether two names differ at most in the case of their ASCII letters. -/
def sameName (a b : String) : Bool := a.toList.map Char.toLower == b.toList.map Char.toLower

/-- The part with a name in letters of either case. -/
def partInAnyCase? (p : Package) (name : String) : Option String :=
  (p.parts.find? fun (other, _) => sameName other name).map (·.2)

/-- The markup of the part with a name in letters of either case. What does not nest is left to the
reader. -/
def markup? (p : Package) (name : String) : Option Markup :=
  (p.partInAnyCase? name).map fun text => Markup.ofText text.toList

/-- The events of the part with a name in letters of either case. A part that breaks off ends early. -/
def events? (p : Package) (name : String) : Option (List MarkupEvent) :=
  (p.markup? name).map (·.events)

/-! ## Names of parts -/

/-- The part that lists the sheets. -/
def workbookPart : String := "xl/workbook.xml"

/-- The part that says where the parts of sheets are. -/
def relationsPart : String := "xl/_rels/workbook.xml.rels"

/-- The part with the style table. -/
def stylesPart : String := "xl/styles.xml"

/-- The part with the texts that cells share. -/
def textsPart : String := "xl/sharedStrings.xml"

end Package

/-- Why a workbook cannot be written. -/
inductive WriteFault where
  /-- A sheet has no name, one that is too long, or one with characters that names cannot have. -/
  | badSheetName (name : String)
  | repeatedSheetName (name : String)
  /-- Something lies outside the rows and columns of a sheet. -/
  | outsideSheet
  /-- A region ends in front of its start. -/
  | invertedRegion (region : Region)
  | overlappingMerges (region : Region)
  | textTooLong (length : Nat)
  deriving DecidableEq, Repr

/-- What a fault says. -/
def WriteFault.message : WriteFault → String
  | badSheetName name => "not a name for a sheet: '" ++ name ++ "'"
  | repeatedSheetName name => "two sheets are named '" ++ name ++ "'"
  | outsideSheet => "outside the rows and columns of a sheet"
  | invertedRegion region => "not a region: " ++ region.text
  | overlappingMerges region => "merged twice: " ++ region.text
  | textTooLong length => "a text of " ++ natText length ++ " characters does not fit a cell"

/-- Why a workbook cannot be read or written. -/
inductive PackageError where
  /-- There is no package, or a part of it that holds cells, texts or names cannot be read. -/
  | unreadable
  | unwritable (fault : WriteFault)
  /-- Tags of a part are not nested, or the part breaks off. -/
  | malformedMarkup (part : String)
  | missingPart (part : String)
  | noSheets
  | sheetNotFound (name : String)
  deriving DecidableEq, Repr

/-- What an error says. -/
def PackageError.message : PackageError → String
  | unreadable => "The workbook cannot be read"
  | unwritable fault => "The workbook cannot be written: " ++ fault.message
  | malformedMarkup part => "Invalid file format: malformed markup in " ++ part
  | missingPart part => "Invalid file format: missing " ++ part
  | noSheets => "Invalid file format: Workbook contains no sheets"
  | sheetNotFound name => "Sheet not found: " ++ name

end SheetPress
