import SheetPress.Coord.Basic
import SheetPress.Formula.Parser

/-!
# What can go wrong with a template

Every failure of reading a template and filling it, by its cause, with its message.
-/

namespace SheetPress

/-- A number as it stands in a message, with its sign. -/
def intText (n : Int) : String := if n < 0 then "-" ++ natText n.natAbs else natText n.toNat

/-- What is wrong with an action between double braces. -/
inductive ActionFault where
  | unclosed
  | empty
  | missingCommand
  | undefined (name : String)
  | callFailed (name message : String)
  | argumentOfValue
  | functionAsArgument (name : String)
  | unterminatedText
  | unterminatedRawText
  | unsupported (c : Char)
  | badPath (word : String)
  | badNumber (word : String)
  | badWord (word : String)
  deriving DecidableEq, Repr

/-- What a fault says. -/
def ActionFault.message : ActionFault → String
  | unclosed => "unclosed action"
  | empty => "empty action"
  | missingCommand => "missing command in pipeline"
  | undefined name => "function \"" ++ name ++ "\" not defined"
  | callFailed name message => "error calling " ++ name ++ ": " ++ message
  | argumentOfValue => "can't give argument to non-function"
  | functionAsArgument name => "function \"" ++ name ++ "\" used as an argument"
  | unterminatedText => "unterminated quoted string"
  | unterminatedRawText => "unterminated raw string"
  | unsupported c => "unsupported syntax '" ++ String.singleton c ++ "'"
  | badPath word => "bad field path '" ++ word ++ "'"
  | badNumber word => "bad number syntax '" ++ word ++ "'"
  | badWord word => "unexpected '" ++ word ++ "' in action"

/-- Why a color expression gives no color. -/
inductive ExpressionFault where
  | malformed (e : ParseError)
  | error (e : CellError)
  | noColor (text : String)
  deriving DecidableEq, Repr

/-- What a fault says. -/
def ExpressionFault.message : ExpressionFault → String
  | malformed e => e.message
  | error e => e.code
  | noColor text => "'" ++ text ++ "' is not a hex color"

/-- Why an item of the list of records is no record. -/
inductive RecordFault where
  /-- The item is a value of some other kind. -/
  | noObject (kind : String)
  | badSampleIndex
  deriving DecidableEq, Repr

/-- The member of a record that picks its sample. -/
def sampleIndexKey : String := "_row_index"

/-- What a fault says. -/
def RecordFault.message : RecordFault → String
  | noObject kind => "expected an object, found " ++ kind
  | badSampleIndex => sampleIndexKey ++ " must be a non-negative integer"

/-- Where the rows of a template go wrong. Rows and columns are counted from 0. -/
inductive LayoutFault where
  | rowPastEnd (row : Nat)
  | columnPastEnd (row col : Nat)
  | noHeader
  deriving DecidableEq, Repr

namespace LayoutFault

/-- The cell that a fault is about. -/
def place : LayoutFault → String
  | rowPastEnd row => "A" ++ natText (row + 1)
  | columnPastEnd row col => "column " ++ natText (col + 1) ++ " of row " ++ natText (row + 1)
  | noHeader => "A1"

/-- What a fault says. -/
def message : LayoutFault → String
  | rowPastEnd _ => "row is past the last worksheet row"
  | columnPastEnd .. => "column is past the last worksheet column"
  | noHeader => "table columns without a header row"

end LayoutFault

/-- Why a template cannot be filled. -/
inductive TemplateError where
  | layout (sheet : String) (fault : LayoutFault)
  | invalidColumn (letters : String)
  | columnOutOfRange (column : String) (shift : Int)
  | missingSamples (sheet column : String)
  | expression (text : String) (fault : ExpressionFault)
  | action (template : String) (fault : ActionFault)
  | invalidRecord (index : Nat) (fault : RecordFault)
  | tableTooLong (sheet : String) (count firstRow : Nat)
  | invalidOptions
  | inSheet (sheet : String) (error : TemplateError)
  deriving DecidableEq, Repr

namespace TemplateError

/-- What an error says. -/
def message : TemplateError → String
  | layout sheet fault =>
    "malformed template at " ++ sheet ++ "!" ++ fault.place ++ ": " ++ fault.message
  | invalidColumn letters => "invalid column letters '" ++ letters ++ "' in formula"
  | columnOutOfRange column shift =>
    "column " ++ column ++ " shifted by " ++ intText shift ++ " falls outside the sheet"
  | missingSamples sheet column =>
    "column " ++ column ++ " on sheet '" ++ sheet ++ "' has no Data sample rows"
  | expression text fault => "failed to evaluate '" ++ text ++ "': " ++ fault.message
  | action template fault =>
    "failed to render template '" ++ template ++ "': " ++ fault.message
  | invalidRecord index fault =>
    "record " ++ natText index ++ " is invalid: " ++ fault.message
  | tableTooLong sheet count firstRow =>
    "insert rows failed on sheet '" ++ sheet ++ "': " ++ natText count
      ++ " records do not fit below row " ++ natText firstRow
  | invalidOptions => "invalid render options"
  | inSheet sheet error => "sheet '" ++ sheet ++ "': " ++ error.message

/-- An error with the sheet that it came from; one that has a sheet keeps it. -/
def onSheet (sheet : String) : TemplateError → TemplateError
  | inSheet other error => inSheet other error
  | error => inSheet sheet error

end TemplateError

end SheetPress
