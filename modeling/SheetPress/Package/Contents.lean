import SheetPress.Package.Basic

/-!
# The contents of a package

One part lists the sheets of a workbook by name, another one says in which part each of them is. Both
are read twice. `Package.sheetEntries?` gives the sheets in order, and everything about them has to be
in order. `Package.partNames` gives the part of each sheet by its name, as far as it is known.
-/

namespace SheetPress

/-- A sheet of a package: its name and the part it is in. -/
structure SheetEntry where
  name : String
  part : String
  deriving DecidableEq, Repr

/-- What an attribute says in the last place where it stands among others. -/
def lastWritten? (attributes : List Attribute) (name : String) : Option (List Char) :=
  (attributes.reverse.find? (isNamed ·.name name)).map (·.value)

/-! ## Sheets in order -/

/-- The targets of relations by their ids, which are as they are written; of those with one id the
first in the list counts. -/
abbrev RelationTargets := List (List Char × List Char)

/-- Reads the relations of the workbook up to their end. -/
def relationTargets? (known : RelationTargets) : List MarkupEvent → Option RelationTargets
  | [] => none
  | .text _ :: rest => relationTargets? known rest
  | .closing name :: rest =>
    if isNamed (localName name) "Relationships" then some known else relationTargets? known rest
  | .opening tag :: rest =>
    if isNamed tag.localName "Relationship" then do
      let attributes ← tag.allAttributes?
      let target ← tag.encoding.redecode? ((lastWritten? attributes "Target").getD [])
      relationTargets? (((lastWritten? attributes "Id").getD [], target) :: known) rest
    else relationTargets? known rest

/-- The part that the target of a relation of the workbook means. -/
def partOfTarget (target : List Char) : List Char :=
  if (dropLead? "/xl/".toList target).isSome then target.drop 1
  else if (dropLead? "xl/".toList target).isSome then target
  else "xl/".toList ++ target

/-- A text cut at every slash. -/
def slashPieces : List Char → List (List Char)
  | [] => [[]]
  | c :: rest =>
    match c, slashPieces rest with
    | '/', pieces => [] :: pieces
    | c, [] => [[c]]
    | c, piece :: pieces => (c :: piece) :: pieces

/-- The folders that sheets are in. -/
def sheetFolders : List String := ["worksheets", "chartsheets", "dialogsheets"]

/-- Whether a part is in a folder for sheets. -/
def isSheetPart (part : List Char) : Bool :=
  match slashPieces part with
  | _ :: folder :: _ => sheetFolders.any (isNamed folder)
  | _ => false

/-- Whether an attribute of a sheet says where it is. -/
def isRelationId (a : Attribute) : Bool :=
  isNamed a.name "r:id" || isNamed a.name "relationships:id"

/-- Whether the attribute of a sheet that says whether it is visible has a meaning. -/
def isVisibility (tag : MarkupTag) (value : List Char) : Bool :=
  match tag.decoded? value with
  | some state => ["visible", "hidden", "veryHidden"].any (isNamed state)
  | none => false

/-- Reads the tag of a sheet. -/
def sheetEntry? (targets : RelationTargets) (tag : MarkupTag) : Option SheetEntry := do
  let attributes ← tag.allAttributes?
  let name ← tag.decoded? ((lastWritten? attributes "name").getD [])
  let found ← (attributes.filter isRelationId).mapM fun a => targets.lookup a.value
  let part := ((found.getLast?).map partOfTarget).getD []
  if isSheetPart part
      && (attributes.filter (isNamed ·.name "state")).all (isVisibility tag ·.value) then
    some ⟨String.ofList name, String.ofList part⟩
  else none

/-- Whether the settings of a workbook can be read. -/
def isReadableSetting (tag : MarkupTag) : Bool :=
  match writtenIn? "date1904" (attributesFrom false [] tag.attributeText) with
  | none => false
  | some none => true
  | some (some value) => (tag.decoded? value).isSome

/-- The events behind a name for a region, whose text has to be readable. -/
def behindDefinedName? (tag : MarkupTag) (events : List MarkupEvent) : Option (List MarkupEvent) :=
  match tag.wellFormed.find? (isNamed ·.name "name") with
  | none => some events
  | some a =>
    match tag.decoded? a.value with
    | none => none
    | some _ => (textOfElement? tag.name events).map (·.2)

theorem behindDefinedName?_length_le {tag : MarkupTag} {events rest : List MarkupEvent}
    (h : behindDefinedName? tag events = some rest) : rest.length ≤ events.length := by
  unfold behindDefinedName? at h
  split at h
  · cases h
    exact Nat.le_refl _
  · split at h
    · cases h
    · simp only [Option.map_eq_some_iff, Prod.exists, exists_eq_right] at h
      obtain ⟨text, h⟩ := h
      exact Nat.le_of_lt (textOfElement?_length_lt h)

/-- Reads the list of sheets up to the end of the workbook part. -/
def sheetEntries? (targets : RelationTargets) (events : List MarkupEvent) :
    Option (List SheetEntry) :=
  match events with
  | [] => none
  | .text _ :: rest => sheetEntries? targets rest
  | .closing name :: rest =>
    if isNamed (localName name) "workbook" then some [] else sheetEntries? targets rest
  | .opening tag :: rest =>
    if isNamed tag.localName "sheet" then do
      let entry ← sheetEntry? targets tag
      let entries ← sheetEntries? targets rest
      some (entry :: entries)
    else if isNamed tag.name "workbookPr" then
      if isReadableSetting tag then sheetEntries? targets rest else none
    else if isNamed tag.localName "definedName" then
      match h : behindDefinedName? tag rest with
      | none => none
      | some behind =>
        have := behindDefinedName?_length_le h
        sheetEntries? targets behind
    else sheetEntries? targets rest
termination_by events.length

/-! ## Parts by name -/

/-- Takes in the target of a relation. -/
def addTarget (targets : List (String × String)) : MarkupEvent → List (String × String)
  | .opening tag =>
    if isNamed tag.name "Relationship" then
      match tag.value? "Id", tag.value? "Target" with
      | some id, some target => (id, target) :: targets
      | _, _ => targets
    else targets
  | _ => targets

/-- A text without the leads `./` in front of it. -/
def dropHere : List Char → List Char
  | '.' :: '/' :: rest => dropHere rest
  | text => text

/-- The part that a target means: one with a leading slash is complete, others are relative to the
folder of the workbook. -/
def resolveTarget (target : String) : String :=
  match target.toList with
  | '/' :: part => String.ofList part
  | relative => "xl/" ++ String.ofList (dropHere relative)

/-- Takes in the part of a sheet, if it is known. -/
def addPartName (targets names : List (String × String)) : MarkupEvent → List (String × String)
  | .opening tag =>
    if isNamed tag.name "sheet" then
      match tag.value? "name", (tag.value? "r:id").bind fun id => targets.lookup id with
      | some name, some target => (name, resolveTarget target) :: names
      | _, _ => names
    else names
  | _ => names

namespace Package

/-- The sheets of a package in order, if everything about them can be read. A package without a
workbook part has none. -/
def sheetEntries? (p : Package) : Option (List SheetEntry) := do
  let relations ← p.events? relationsPart
  let targets ← relationTargets? [] relations
  match p.events? workbookPart with
  | none => some []
  | some events => SheetPress.sheetEntries? targets events

/-- The events of a part whose markup has to be sound. -/
def soundEvents (name text : String) : Except PackageError (List MarkupEvent) :=
  match Markup.nestedEvents? text with
  | some events => .ok events
  | none => .error (.malformedMarkup name)

/-- The parts of sheets by the names of sheets; of those with one name the first in the list
counts. -/
def partNames (p : Package) : Except PackageError (List (String × String)) := do
  let some workbook := p.part? workbookPart | .error (.missingPart workbookPart)
  let relations ← soundEvents relationsPart ((p.part? relationsPart).getD "")
  let sheets ← soundEvents workbookPart workbook
  .ok (sheets.foldl (addPartName (relations.foldl addTarget [])) [])

end Package

end SheetPress
