import SheetPress.Evaluation.Aggregate
import SheetPress.Evaluation.Scope
import SheetPress.Formula.Parser

/-!
# Functions

The functions that formulas call. An argument is its value and, for a reference, the cells that it
covers: aggregates and `ISBLANK` look at the cells, all other functions at the value.
-/

namespace SheetPress

/-- An argument of a function. -/
structure Argument where
  value : Value
  isReference : Bool
  /-- The cells that a reference covers, if it can be followed. -/
  cells : Option (List (Option Cell))

/-- Whether a cell holds a formula that calls `SUBTOTAL`. -/
def holdsSubtotal (cell : Cell) : Bool :=
  match cell.formula.map parseFormula with
  | some (.ok e) => e.calls "SUBTOTAL"
  | _ => false

/-! ## Aggregates -/

/-- The inputs that a visited cell gives an aggregate: none for an empty cell without a formula, nor
for a nested subtotal where those are skipped. -/
def cellInput? (skipSubtotals : Bool) (cell : Cell) : Option AggregateInput :=
  if cell.value.isEmpty && !cell.hasFormula then none
  else if skipSubtotals && holdsSubtotal cell then none
  else some ⟨.ofCell cell.value, true⟩

/-- The inputs that an argument gives an aggregate. -/
def Argument.inputs (skipSubtotals : Bool) (arg : Argument) :
    Except CellError (List AggregateInput) :=
  if arg.isReference then
    match arg.cells with
    | none => .error .reference
    | some cells => .ok ((cells.filterMap id).filterMap (cellInput? skipSubtotals))
  else .ok (arg.value.flatten.map fun v => ⟨v, false⟩)

/-- The inputs that arguments give an aggregate, in order. -/
def aggregateInputs (skipSubtotals : Bool) :
    List Argument → Except CellError (List AggregateInput)
  | [] => .ok []
  | arg :: rest => do
    let here ← arg.inputs skipSubtotals
    let more ← aggregateInputs skipSubtotals rest
    .ok (here ++ more)

/-- An aggregate of arguments. -/
def aggregateOf (kind : Aggregate) (skipSubtotals : Bool) (args : List Argument) : Value :=
  match aggregateInputs skipSubtotals args with
  | .ok inputs => kind.of inputs
  | .error e => .error e

/-- `SUBTOTAL`: the aggregate whose number comes first, of the other arguments without the cells that
hold subtotals themselves. -/
def subtotalOf : List Argument → Value
  | [] => .error .value
  | code :: refs =>
    match code.value with
    | .error e => .error e
    | value =>
      match value.asNumber? with
      | none => .error .value
      | some x =>
        match Aggregate.ofCode? (clampInt64 x) with
        | none => .error .value
        | some kind => aggregateOf kind true refs

/-! ## Truth values -/

/-- `IF`: without a third argument, the value of a false condition is false. -/
def ifOf : List Argument → Value
  | condition :: yes :: rest =>
    if rest.length > 1 then .error .value
    else if condition.value.isError then condition.value
    else
      match condition.value.asBoolean?, rest with
      | some true, _ => yes.value
      | some false, no :: _ => no.value
      | some false, [] => .boolean false
      | none, _ => .error .value
  | _ => .error .value

/-- Goes through the single values of `AND` and `OR` until an error or a truth value that decides. -/
def scanLogical (all seen : Bool) : List Value → Value
  | [] => if seen then .boolean all else .error .value
  | value :: rest =>
    match value with
    | .error e => .error e
    | value =>
      match value.asBoolean? with
      | none => scanLogical all seen rest
      | some b => if b != all then .boolean (!all) else scanLogical all true rest

/-- `AND` for `all`, else `OR`. Values that are no truth values are passed over. -/
def logicalOf (all : Bool) (args : List Argument) : Value :=
  scanLogical all false (args.flatMap (·.value.flatten))

/-! ## Numbers -/

/-- The values of arguments as numbers; the first that is none decides the error. -/
def numbersOf : List Argument → Except CellError (List Float)
  | [] => .ok []
  | arg :: rest =>
    match arg.value with
    | .error e => .error e
    | value =>
      match value.asNumber? with
      | none => .error .value
      | some x => (numbersOf rest).map (x :: ·)

/-- A function of exactly one number. -/
def withNumber (args : List Argument) (f : Float → Value) : Value :=
  if args.length = 1 then
    match numbersOf args with
    | .ok [x] => f x
    | .ok _ => .error .value
    | .error e => .error e
  else .error .value

/-- A function of exactly two numbers. -/
def withNumbers (args : List Argument) (f : Float → Float → Value) : Value :=
  if args.length = 2 then
    match numbersOf args with
    | .ok [x, y] => f x y
    | .ok _ => .error .value
    | .error e => .error e
  else .error .value

/-- A power by repeated squaring; the factors are multiplied from the lowest digit of the exponent
on. -/
def powerBySquaring (result base : Float) (exponent : Nat) : Float :=
  if _h : exponent = 0 then result
  else
    powerBySquaring (if exponent % 2 = 1 then result * base else result) (base * base)
      (exponent / 2)
termination_by exponent

/-- A whole power of ten; a negative one is the reciprocal of the positive one. -/
def floatPowerOfTen (exponent : Int) : Float :=
  let positive := powerBySquaring 1.0 10.0 exponent.natAbs
  if exponent < 0 then 1.0 / positive else positive

/-- `ROUND`: halves go away from zero. -/
def roundOf (args : List Argument) : Value :=
  match args with
  | [_] => withNumber args fun x => .number x.round
  | _ => withNumbers args fun x digits =>
      let factor := floatPowerOfTen (clampInt32 digits)
      .number ((x * factor).round / factor)

/-- `MOD`: the remainder has the sign of the divisor. -/
def modOf (args : List Argument) : Value :=
  withNumbers args fun x d =>
    if d == 0.0 then .error .divisionByZero else .number (x - d * (x / d).floor)

/-! ## Texts -/

/-- A function of exactly one text. -/
def withText (args : List Argument) (f : String → Value) : Value :=
  match args with
  | [arg] =>
    match arg.value with
    | .error e => .error e
    | value => f value.asText
  | _ => .error .value

/-- The texts of values one after another, up to the first error. -/
def concatOf (text : String) : List Value → Value
  | [] => .text text
  | .error e :: _ => .error e
  | value :: rest => concatOf (text ++ value.asText) rest

/-- `LEFT` and `RIGHT`: some characters of a text, one if no number is given. -/
def sliceOf (args : List Argument) (take : List Char → Nat → List Char) : Value :=
  let slice (text : Argument) (count : Float) : Value :=
    .text (String.ofList (take text.value.asText.toList (clampNat64 count)))
  match args with
  | [text] => if text.value.isError then text.value else slice text 1.0
  | [text, count] =>
    if text.value.isError then text.value
    else
      match count.value.asNumber? with
      | some n => if n ≥ 0.0 then slice text n else .error .value
      | none => .error .value
  | _ => .error .value

/-- The position in front of another one. Positions are sizes, so that the greatest size is in front of
position 0. -/
def positionBefore (n : Nat) : Nat := (n + (sizeLimit - 1)) % sizeLimit

/-- `MID`: some characters of a text from a place on, counted from 1. A place that is not a number is
place 0, which lies behind every text. -/
def midOf : List Argument → Value
  | [text, start, count] =>
    if text.value.isError then text.value
    else
      match start.value.asNumber?, count.value.asNumber? with
      | some start, some count =>
        if start < 1.0 || count < 0.0 then .error .value
        else
          .text (String.ofList
            ((text.value.asText.toList.drop (positionBefore (clampNat64 start))).take
              (clampNat64 count)))
      | _, _ => .error .value
  | _ => .error .value

/-! ## Questions about values -/

/-- A question about one value. -/
def askOf (args : List Argument) (test : Value → Bool) : Value :=
  match args with
  | [arg] => .boolean (test arg.value)
  | _ => .error .value

/-- `ISBLANK`: whether the argument is a reference to a single place that holds no value. -/
def isBlankOf : List Argument → Value
  | [arg] =>
    match arg.cells with
    | some [none] => .boolean true
    | some [some cell] => .boolean cell.value.isEmpty
    | _ => .boolean false
  | _ => .error .value

/-! ## By name -/

/-- The value of a function call. -/
def callFunction (name : String) (args : List Argument) : Value :=
  match toUpperText name with
  | "SUM" => aggregateOf .sum false args
  | "AVERAGE" => aggregateOf .average false args
  | "MIN" => aggregateOf .min false args
  | "MAX" => aggregateOf .max false args
  | "COUNT" => aggregateOf .count false args
  | "COUNTA" => aggregateOf .countAll false args
  | "PRODUCT" => aggregateOf .product false args
  | "SUBTOTAL" => subtotalOf args
  | "IF" => ifOf args
  | "IFERROR" =>
    match args with
    | [value, fallback] => if value.value.isError then fallback.value else value.value
    | _ => .error .value
  | "AND" => logicalOf true args
  | "OR" => logicalOf false args
  | "NOT" =>
    match args with
    | [arg] =>
      match arg.value.asBoolean? with
      | some b => .boolean (!b)
      | none => .error .value
    | _ => .error .value
  | "TRUE" => .boolean true
  | "FALSE" => .boolean false
  | "ABS" => withNumber args fun x => .number x.abs
  | "INT" => withNumber args fun x => .number x.floor
  | "SQRT" => withNumber args fun x =>
      if x.sqrt.isNaN then .error .number else .number x.sqrt
  | "ROUND" => roundOf args
  | "MOD" => modOf args
  | "POWER" => withNumbers args fun x y => Value.finiteOr (.number (x.pow y))
  | "LEN" => withText args fun s => .number (Float.ofNat s.length)
  | "UPPER" => withText args fun s => .text (toUpperText s)
  | "LOWER" => withText args fun s => .text (toLowerText s)
  | "TRIM" => withText args fun s => .text (" ".intercalate (wordsOf s))
  | "CONCATENATE" => concatOf "" (args.flatMap (·.value.flatten))
  | "CONCAT" => concatOf "" (args.flatMap (·.value.flatten))
  | "LEFT" => sliceOf args fun text n => text.take n
  | "RIGHT" => sliceOf args fun text n => text.drop (text.length - n)
  | "MID" => midOf args
  | "ISNUMBER" => askOf args fun v => (v matches .number _)
  | "ISTEXT" => askOf args fun v => (v matches .text _)
  | "ISERROR" => askOf args Value.isError
  | "ISBLANK" => isBlankOf args
  | _ => .error .name

end SheetPress
