import SheetPress.Evaluation.Value

/-!
# Aggregates

The functions that summarise many values: sums, averages, extremes, counts and deviations.
-/

namespace SheetPress

/-- What an aggregate computes. -/
inductive Aggregate where
  | average | count | countAll | max | min | product
  | sampleDeviation | deviation | sum | sampleVariance | variance
  deriving DecidableEq, Repr

/-- A value that an aggregate takes, and whether it came from a cell of a reference. -/
structure AggregateInput where
  value : Value
  fromReference : Bool
  deriving Repr

namespace Aggregate

/-- The aggregate with a number; numbers above 100 mean the same as those without the hundred. -/
def ofCode? (code : Int) : Option Aggregate :=
  match if code > 100 then code - 100 else code with
  | 1 => some average
  | 2 => some count
  | 3 => some countAll
  | 4 => some max
  | 5 => some min
  | 6 => some product
  | 7 => some sampleDeviation
  | 8 => some deviation
  | 9 => some sum
  | 10 => some sampleVariance
  | 11 => some variance
  | _ => none

/-- The numbers that an aggregate takes from its inputs. Texts and truth values from cells are
passed over; other inputs must read as numbers. A count passes over all that is no number. -/
def numbers (kind : Aggregate) : List AggregateInput → Except CellError (List Float)
  | [] => .ok []
  | input :: rest =>
    match input.value with
    | .number x => (numbers kind rest).map (x :: ·)
    | .error e => if kind = count then numbers kind rest else .error e
    | value =>
      if input.fromReference && !(value matches .array _) then numbers kind rest
      else
        match value.asNumber? with
        | some x => (numbers kind rest).map (x :: ·)
        | none => if kind = count then numbers kind rest else .error .value

/-- The sum of numbers from left to right; the sum of none is negative zero. -/
def sumOf (xs : List Float) : Float := xs.foldl (· + ·) (-0.0)

/-- The larger of two numbers, of equal ones the second. What is not a number gives way. -/
def larger (x y : Float) : Float := if x.isNaN || y ≥ x then y else x

/-- The smaller of two numbers, of equal ones the second. What is not a number gives way. -/
def smaller (x y : Float) : Float := if x.isNaN || y ≤ x then y else x

/-- The variance of numbers, of a whole population or of a sample from one; nothing for too few. -/
def varianceOf? (sample : Bool) (xs : List Float) : Option Float :=
  let size := Float.ofNat xs.length
  let denominator := if sample then size - 1.0 else size
  if denominator ≤ 0.0 then none
  else
    let mean := sumOf xs / size
    some (sumOf (xs.map fun x => (x - mean) * (x - mean)) / denominator)

/-- What an aggregate gives for numbers; nothing where it would divide by zero. -/
def ofNumbers? (kind : Aggregate) (xs : List Float) : Option Float :=
  let size := Float.ofNat xs.length
  match kind with
  | sum => some (sumOf xs)
  | count => some size
  | countAll => some size
  | average => if size > 0.0 then some (sumOf xs / size) else none
  | max =>
    match xs with
    | [] => some 0.0
    | x :: rest => some (rest.foldl larger x)
  | min =>
    match xs with
    | [] => some 0.0
    | x :: rest => some (rest.foldl smaller x)
  | product => if xs.isEmpty then some 0.0 else some (xs.foldl (· * ·) 1.0)
  | sampleVariance => varianceOf? true xs
  | variance => varianceOf? false xs
  | sampleDeviation => (varianceOf? true xs).map Float.sqrt
  | deviation => (varianceOf? false xs).map Float.sqrt

/-- What an aggregate gives for its inputs. -/
def of (kind : Aggregate) (inputs : List AggregateInput) : Value :=
  if kind = countAll then .number (Float.ofNat inputs.length)
  else
    match kind.numbers inputs with
    | .error e => .error e
    | .ok xs =>
      match kind.ofNumbers? xs with
      | some x => .number x
      | none => .error .divisionByZero

end Aggregate

end SheetPress
