import SheetPress.Cell.Basic
import SheetPress.Template.Action
import Std.Data.ExtTreeMap

/-!
# Records

The rows of data that fill a table. They come as JSON objects: each member is a field, but for two
that tell the kind of the row and which sample it follows.
-/

namespace SheetPress

/-- The value of a field. -/
inductive FieldValue where
  | text (s : String)
  | number (x : Float)
  | boolean (b : Bool)
  /-- A formula with its leading `=`. -/
  | formula (s : String)
  deriving DecidableEq, Repr

namespace FieldValue

/-- A text as a field: one that begins with `=` and goes on is a formula. -/
def ofText (s : String) : FieldValue :=
  if byteCount s > 1 && s.startsWith "=" then formula s else text s

/-- A JSON value as a field; null is no field. -/
def ofJson? : Json → Option FieldValue
  | .null => none
  | .bool b => some (boolean b)
  | .number n => some (number n.toFloat)
  | .string s => some (ofText s)
  | other => some (text other.compact)

/-- A field as a JSON value. -/
def toJson : FieldValue → Json
  | text s => .string s
  | formula s => .string s
  | number x => .ofFloat x
  | boolean b => .bool b

/-- A field as a cell holds it; a formula is held as its text. -/
def toCell : FieldValue → CellValue
  | text s => .text s
  | formula s => .text s
  | number x => .number x
  | boolean b => .boolean b

/-- The text of a field. -/
def display : FieldValue → String
  | text s => s
  | formula s => s
  | number x => numberText x
  | boolean b => if b then "true" else "false"

end FieldValue

/-- Whether a row is data or was put in to summarise a group. -/
inductive RowKind where
  | data
  | subtotal
  deriving DecidableEq, Repr

/-- A row of data: fields by name. -/
structure Record where
  fields : Std.ExtTreeMap String FieldValue := ∅
  kind : RowKind := .data
  /-- The sample that the row follows, if not the one at its own position. -/
  sample : Option Nat := none

namespace Record

/-- The field with a name. -/
def field? (r : Record) (name : String) : Option FieldValue := r.fields[name]?

/-- The same record with a field set. -/
def withField (r : Record) (name : String) (value : FieldValue) : Record :=
  { r with fields := r.fields.insert name value }

/-- Whether the row summarises a group. -/
def isSubtotal (r : Record) : Bool := r.kind == .subtotal

/-- The fields as data for text templates. -/
def toJson (r : Record) : Json := .ofMembers (r.fields.toList.map fun (name, f) => (name, f.toJson))

/-- The member that tells the kind of a row. -/
def rowKindKey : String := "_row_type"

/-- What that member holds for a subtotal row. -/
def subtotalKind : String := "subtotal"

/-- How messages call a kind of JSON value. -/
def kindText : Json → String
  | .null => "null"
  | .bool _ => "a boolean"
  | .number _ => "a number"
  | .string _ => "a string"
  | .array _ => "an array"
  | .object _ => "an object"

/-- Takes one member of an object into a record. -/
def addMember (r : Record) (name : String) (value : Json) : Except RecordFault Record :=
  if name = rowKindKey then
    match value with
    | .string s => .ok (if s = subtotalKind then { r with kind := .subtotal } else r)
    | _ => .ok r
  else if name = sampleIndexKey then
    match value with
    | .number (.natural n) => .ok { r with sample := some n }
    | .null => .ok r
    | _ => .error .badSampleIndex
  else
    match FieldValue.ofJson? value with
    | some f => .ok (r.withField name f)
    | none => .ok r

/-- Reads the record at a position of a list. -/
def ofJson (index : Nat) (value : Json) : Except TemplateError Record :=
  match value with
  | .object members =>
    match members.foldlM (fun r (name, v) => addMember r name v) ({} : Record) with
    | .ok r => .ok r
    | .error fault => .error (.invalidRecord index fault)
  | other => .error (.invalidRecord index (.noObject (kindText other)))

/-- Reads the records of a list from a position on. -/
def ofJsonFrom (index : Nat) : List Json → Except TemplateError (List Record)
  | [] => .ok []
  | item :: rest => do
    let r ← ofJson index item
    let more ← ofJsonFrom (index + 1) rest
    .ok (r :: more)

end Record

/-! ## Data of sheets and workbooks -/

/-- The records that data holds under a name; where there is no list there are none. -/
def recordsOf (data : Json) (listField : String) : Except TemplateError (List Record) :=
  match data.member? listField with
  | some (.array items) => Record.ofJsonFrom 0 items
  | _ => .ok []

/-- The data of a sheet that was given none. -/
def noData : Json := .object []

/-- The data of a workbook: one value for all sheets, or a value for each. -/
inductive ReportData where
  | shared (data : Json)
  | perSheet (list : List Json)
  deriving Repr

namespace ReportData

/-- An array is data by sheet, every other value is shared. -/
def ofJson : Json → ReportData
  | .array items => perSheet items
  | other => shared other

/-- The data of the sheet at a position. -/
def sheet? : ReportData → Nat → Option Json
  | shared data, _ => some data
  | perSheet list, i => list[i]?

end ReportData

end SheetPress
