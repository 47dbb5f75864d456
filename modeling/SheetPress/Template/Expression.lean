import SheetPress.Evaluation.Basic
import SheetPress.Formula.Parser
import SheetPress.Template.Error
import SheetPress.Template.Record

/-!
# Expressions over records

Color rules are formulas that name the fields of a record, as in `=IF(status="late","FF0000","")`. An
evaluator puts the fields into cells of a scratch grid, writes their addresses in place of their
names, and evaluates the formula on that grid. Names that the record lacks stand for empty cells.
-/

namespace SheetPress

/-! ## Names in expressions -/

/-- A piece of an expression: a word that can name a field, or a stretch of other text. -/
inductive ExpressionPiece where
  | name (word : List Char)
  | other (text : List Char)
  deriving DecidableEq, Repr

/-- Characters of names. -/
def isNameChar (c : Char) : Bool := isHan c || isWordChar c

/-- Whether a word behind a character and in front of some text can name a field: it is no number, no
function, no sheet, and no part of a reference with dollar signs. -/
def namesField (afterDollar : Bool) (word behind : List Char) : Bool :=
  !(word.head?.any isAsciiDigit) && !afterDollar &&
    (match (trimStartChars behind).head? with
    | some '(' | some '!' | some '$' => false
    | _ => true)

/-- The piece that a word makes. -/
def wordPiece (quoted afterDollar : Bool) (word behind : List Char) : ExpressionPiece :=
  if !quoted && namesField afterDollar word behind then .name word else .other word

/-- The pieces of an expression. `quoted` tells whether its start lies within a text literal,
`afterDollar` whether a dollar sign stands in front. -/
def expressionPieces (quoted afterDollar : Bool) (text : List Char) : List ExpressionPiece :=
  match text with
  | [] => []
  | c :: rest =>
    if isNameChar c then
      have : (rest.dropWhile isNameChar).length ≤ rest.length := length_dropWhile_le isNameChar rest
      wordPiece quoted afterDollar (c :: rest.takeWhile isNameChar) (rest.dropWhile isNameChar)
        :: expressionPieces quoted false (rest.dropWhile isNameChar)
    else .other [c] :: expressionPieces (if c = '"' then !quoted else quoted) (c = '$') rest
termination_by text.length

/-- The characters of a piece. -/
def ExpressionPiece.chars : ExpressionPiece → List Char
  | name word => word
  | other text => text

/-- The words of an expression that can name fields. -/
def namesOf (expression : String) : List String :=
  (expressionPieces false false expression.toList).filterMap fun
    | .name word => some (String.ofList word)
    | .other _ => none

/-- Words that keep their own meaning unless a field has that name: truth values and references. -/
def isReservedName (name : String) : Bool :=
  let upper := name.toList.map Char.toUpper
  upper == ['T', 'R', 'U', 'E'] || upper == ['F', 'A', 'L', 'S', 'E']
    || (Coord.parse? name.toList).isSome

/-! ## Binding names to cells -/

/-- The cell of the scratch grid with a number. -/
def scratchPlace (n : Nat) : Coord := ⟨n, 0⟩

/-- Adds to some names the words of an expression that name no field yet. -/
def addNames (names : List String) : List String → List String
  | [] => names
  | word :: rest =>
    if word ∈ names ∨ isReservedName word then addNames names rest
    else addNames (names ++ [word]) rest

/-- The names that are bound for an expression: the fields of the record in order, then the words of
the expression that the record lacks. -/
def boundNames (expression : String) (record : Record) : List String :=
  addNames (record.fields.toList.map (·.1)) (namesOf expression)

/-- An expression with the names in a list replaced by the addresses of their cells. -/
def bindNames (names : List String) (expression : String) : String :=
  String.ofList ((expressionPieces false false expression.toList).flatMap fun
    | .name word =>
      match names.idxOf? (String.ofList word) with
      | some n => (scratchPlace n).address.toList
      | none => word
    | .other text => text)

/-! ## Evaluators -/

/-- What an expression evaluates to. -/
structure Evaluation where
  text : String
  raw : Value
  deriving Repr

/-- An evaluator with its scratch grid, which is empty between uses. -/
structure ScratchEvaluator where
  scratch : Grid := {}
  deriving Inhabited

/-- Puts values into the first cells of a scratch grid. -/
def fillScratch (scratch : Grid) (values : List FieldValue) : Grid :=
  (values.mapIdx fun n value => (n, value)).foldl
    (fun g (n, value) => g.set (scratchPlace n) (.ofValue value.toCell)) scratch

/-- Clears the first cells of a scratch grid. -/
def clearScratch (scratch : Grid) (count : Nat) : Grid :=
  (List.range count).foldl (fun g n => g.erase (scratchPlace n)) scratch

/-- The outcome of a formula, bound to a grid: errors of the formula are failures. -/
def evaluateBound (scratch : Grid) (bound : String) : Except ExpressionFault Evaluation :=
  match parseFormula bound with
  | .error e => .error (.malformed e)
  | .ok e =>
    match e.eval (.single scratch) with
    | .error code => .error (.error code)
    | raw => .ok ⟨raw.asText, raw⟩

namespace ScratchEvaluator

/-- Evaluates an expression over the fields of a record. -/
def evaluate (e : ScratchEvaluator) (expression : String) (record : Record) :
    Except TemplateError Evaluation × ScratchEvaluator :=
  let names := boundNames expression record
  let scratch := fillScratch e.scratch (record.fields.toList.map (·.2))
  let outcome := evaluateBound scratch (bindNames names expression)
  (outcome.mapError (.expression expression), ⟨clearScratch scratch names.length⟩)

end ScratchEvaluator

/-- What an expression evaluates to over a record, by an evaluator of its own. -/
def evaluateExpression (expression : String) (record : Record) : Except TemplateError Evaluation :=
  (({} : ScratchEvaluator).evaluate expression record).1

end SheetPress
