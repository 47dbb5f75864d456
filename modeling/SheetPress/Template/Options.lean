import SheetPress.Json.Syntax
import SheetPress.Template.Error
import SheetPress.Template.Labels
import SheetPress.Template.Pool

/-!
# Options

The options of a report as JSON. A structure is an object with some of its fields, or an array of its
first fields in order; fields left out keep their usual values.
-/

namespace SheetPress

/-- What can be chosen about reports. -/
structure ReportOptions where
  /-- The member of the data that holds the list of records. -/
  listField : String := "table"
  locale : Locale := .english
  pool : PoolConfig := {}
  deriving DecidableEq, Repr

/-! ## Reading structures -/

namespace Json.Syntax

/-- A field of a structure: its name, and how its value is taken in. -/
structure Field (σ : Type) where
  name : String
  set : σ → Syntax → Option σ

variable {σ : Type}

/-- The field that a member is for. -/
def field? (fields : List (Field σ)) (name : String) : Option (Field σ) :=
  fields.find? (·.name == name)

/-- Takes in a member of an object; members that are no fields are passed over. -/
def setMember (fields : List (Field σ)) (s : σ) (member : Option String × Syntax) : Option σ := do
  let name ← member.1
  match field? fields name with
  | some f => f.set s member.2
  | none => some s

/-- Whether no field is given twice by the members of an object. -/
def distinctFields (fields : List (Field σ)) (members : List (Option String × Syntax)) : Bool :=
  decide ((members.filterMap fun (name, _) => name.bind fun n => (field? fields n).map (·.name)).Nodup)

/-- Reads a structure, starting from its usual values. -/
def readFields? (fields : List (Field σ)) (usual : σ) : Syntax → Option σ
  | array items =>
    if items.length ≤ fields.length then
      (fields.zip items).foldlM (fun s (f, item) => f.set s item) usual
    else none
  | object members =>
    if distinctFields fields members then members.foldlM (setMember fields) usual else none
  | _ => none

/-- A text. -/
def text? : Syntax → Option String
  | string text => text
  | _ => none

/-- A natural number of 64 bits, written without point and exponent. -/
def natural? : Syntax → Option Nat
  | number ⟨false, whole, none, none⟩ =>
    let value := digitsValue whole
    if value < sizeLimit then some value else none
  | _ => none

end Json.Syntax

/-! ## Reading options -/

open Json (Syntax)

/-- The language with a name. -/
def Locale.ofName? : String → Option Locale
  | "english" => some english
  | "chinese" => some chinese
  | _ => none

/-- Reads a language: its name, or an object with its name and null. -/
def Locale.ofSyntax? : Syntax → Option Locale
  | .string (some name) => ofName? name
  | .object [(some name, .null)] => ofName? name
  | _ => none

/-- Reads how a pool is run. -/
def PoolConfig.ofSyntax? : Syntax → Option PoolConfig :=
  Syntax.readFields? [
    ⟨"min_size", fun c v => v.natural?.map fun n => { c with minSize := n }⟩,
    ⟨"max_size", fun c v => v.natural?.map fun n => { c with maxSize := n }⟩,
    ⟨"sweep_interval_secs", fun c v => v.natural?.map fun n => { c with sweepInterval := n }⟩,
    ⟨"idle_timeout_secs", fun c v => v.natural?.map fun n => { c with idleTimeout := n }⟩] {}

namespace ReportOptions

/-- Reads the options of a report. -/
def ofSyntax? : Syntax → Option ReportOptions :=
  Syntax.readFields? [
    ⟨"list_field", fun o v => v.text?.map fun s => { o with listField := s }⟩,
    ⟨"locale", fun o v => (Locale.ofSyntax? v).map fun l => { o with locale := l }⟩,
    ⟨"pool", fun o v => (PoolConfig.ofSyntax? v).map fun p => { o with pool := p }⟩] {}

/-- Reads the options of a report from text. -/
def read (text : String) : Except TemplateError ReportOptions :=
  match (Syntax.read? text).bind ofSyntax? with
  | some options => .ok options
  | none => .error .invalidOptions

end ReportOptions

end SheetPress
