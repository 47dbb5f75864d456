import Mathlib
import SheetPress.Proofs.Checked.Arithmetic
import SheetPress.Proofs.Evaluation.Alike
import SheetPress.Proofs.Evaluation.Numbers

/-!
# Functions in checked arithmetic

A function evaluates its arguments one after another, and each only where its value is asked for: `IF`
evaluates one of its branches, and `AND` no argument behind the one that decides.  What an argument
stops at counts for the function only if the argument is evaluated.  One function counts positions
itself: `MID` takes one from the place where it starts.

* `checkedMidOf_follows` — `MID` stops only where it starts at a place that is not a number.
* `checkedCall_follows` — a function gives what it gives in any arithmetic, unless it stops.
-/

namespace SheetPress

/-- An argument of a function that is not evaluated yet, with the cells that it covers. -/
structure CheckedArgument where
  value : Checked Value
  isReference : Bool
  cells : Checked (Option (List (Option Cell)))

/-- An argument of which only the value is known. -/
def Argument.ofValue (value : Value) : Argument := ⟨value, false, none⟩

/-! ## Aggregates -/

/-- The inputs that an argument gives an aggregate. -/
def CheckedArgument.inputs (skipSubtotals : Bool) (arg : CheckedArgument) :
    Checked (Except CellError (List AggregateInput)) :=
  if arg.isReference then do
    let cells ← arg.cells
    return Argument.inputs skipSubtotals ⟨.boolean false, true, cells⟩
  else do
    let value ← arg.value
    return Argument.inputs skipSubtotals (.ofValue value)

/-- The inputs that arguments give an aggregate, up to the first that cannot be followed. -/
def checkedInputs (skipSubtotals : Bool) :
    List CheckedArgument → Checked (Except CellError (List AggregateInput))
  | [] => pure (.ok [])
  | arg :: rest => do
    match ← arg.inputs skipSubtotals with
    | .error e => return .error e
    | .ok here =>
      let more ← checkedInputs skipSubtotals rest
      return more.map (here ++ ·)

/-- An aggregate of arguments. -/
def checkedAggregateOf (kind : Aggregate) (skipSubtotals : Bool) (args : List CheckedArgument) :
    Checked Value := do
  match ← checkedInputs skipSubtotals args with
  | .ok inputs => return kind.of inputs
  | .error e => return .error e

/-- `SUBTOTAL`. -/
def checkedSubtotalOf : List CheckedArgument → Checked Value
  | [] => pure (.error .value)
  | code :: refs => do
    match ← code.value with
    | .error e => return .error e
    | value =>
      match value.asNumber? with
      | none => return .error .value
      | some x =>
        match Aggregate.ofCode? (clampInt64 x) with
        | none => return .error .value
        | some kind => checkedAggregateOf kind true refs

/-! ## Truth values and texts -/

/-- `IF`: only the branch that is taken is evaluated. -/
def checkedIfOf : List CheckedArgument → Checked Value
  | condition :: yes :: rest =>
    if rest.length > 1 then pure (.error .value)
    else do
      let value ← condition.value
      if value.isError then return value
      match value.asBoolean?, rest with
      | some true, _ => yes.value
      | some false, no :: _ => no.value
      | some false, [] => return .boolean false
      | none, _ => return .error .value
  | _ => pure (.error .value)

/-- `IFERROR`: the second argument is evaluated where the first one is an error. -/
def checkedIfErrorOf : List CheckedArgument → Checked Value
  | [value, fallback] => do
    let value ← value.value
    if value.isError then fallback.value else return value
  | _ => pure (.error .value)

/-- What a walk through values gives: each of them changes a state or ends the walk. -/
def scanned {σ : Type} (step : σ → Value → Except Value σ) (finish : σ → Value) (s : σ)
    (values : List Value) : Value :=
  match values.foldlM step s with
  | .error result => result
  | .ok s => finish s

/-- A walk through the single values of arguments.  What stands behind its end is not evaluated. -/
def checkedScan {σ : Type} (step : σ → Value → Except Value σ) (finish : σ → Value) :
    σ → List CheckedArgument → Checked Value
  | s, [] => pure (finish s)
  | s, arg :: rest => do
    let value ← arg.value
    match value.flatten.foldlM step s with
    | .error result => return result
    | .ok s => checkedScan step finish s rest

/-- One value of `AND` or `OR`. -/
def logicalStep (all seen : Bool) : Value → Except Value Bool
  | .error e => .error (.error e)
  | value =>
    match value.asBoolean? with
    | none => .ok seen
    | some b => if b != all then .error (.boolean (!all)) else .ok true

/-- What `AND` and `OR` give if no value decides. -/
def logicalEnd (all seen : Bool) : Value := if seen then .boolean all else .error .value

/-- One value of a text made of several. -/
def concatStep (text : String) : Value → Except Value String
  | .error e => .error (.error e)
  | value => .ok (text ++ value.asText)

/-! ## Functions of a fixed number of values -/

/-- A function of exactly one value. -/
def checkedOne (f : List Argument → Value) : List CheckedArgument → Checked Value
  | [arg] => do
    let value ← arg.value
    return f [.ofValue value]
  | _ => pure (.error .value)

/-- A function of exactly two numbers: the second argument is not evaluated where the first one is no
number. -/
def checkedTwo (f : List Argument → Value) : List CheckedArgument → Checked Value
  | [first, second] => do
    let value ← first.value
    match numbersOf [.ofValue value] with
    | .error e => return .error e
    | .ok _ =>
      let other ← second.value
      return f [.ofValue value, .ofValue other]
  | _ => pure (.error .value)

/-- `ROUND`: with one argument, or with two. -/
def checkedRoundOf (args : List CheckedArgument) : Checked Value :=
  match args with
  | [_] => checkedOne roundOf args
  | _ => checkedTwo roundOf args

/-- `LEFT` and `RIGHT`. -/
def checkedSliceOf (take : List Char → Nat → List Char) : List CheckedArgument → Checked Value
  | [text] => do
    let value ← text.value
    return sliceOf [.ofValue value] take
  | [text, count] => do
    let value ← text.value
    if value.isError then return value
    let number ← count.value
    return sliceOf [.ofValue value, .ofValue number] take
  | _ => pure (.error .value)

/-- `MID`: the place where it starts counts from 1. -/
def checkedMidOf : List CheckedArgument → Checked Value
  | [text, start, count] => do
    let value ← text.value
    if value.isError then return value
    let start ← start.value
    let count ← count.value
    match start.asNumber?, count.asNumber? with
    | some start, some count =>
      if start < 1.0 || count < 0.0 then return .error .value
      let position ← minus (clampNat64 start) 1
      return .text (String.ofList ((value.asText.toList.drop position).take (clampNat64 count)))
    | _, _ => return .error .value
  | _ => pure (.error .value)

/-- `ISBLANK`: the argument is not evaluated, but its cells are looked at. -/
def checkedIsBlankOf : List CheckedArgument → Checked Value
  | [arg] => do
    let cells ← arg.cells
    return isBlankOf [⟨.boolean false, false, cells⟩]
  | _ => pure (.error .value)

/-! ## By name -/

/-- The value of a function call.  Functions that look at the values of one or two arguments are called
with these values. -/
def checkedCall (name : String) (args : List CheckedArgument) : Checked Value :=
  match toUpperText name with
  | "SUM" => checkedAggregateOf .sum false args
  | "AVERAGE" => checkedAggregateOf .average false args
  | "MIN" => checkedAggregateOf .min false args
  | "MAX" => checkedAggregateOf .max false args
  | "COUNT" => checkedAggregateOf .count false args
  | "COUNTA" => checkedAggregateOf .countAll false args
  | "PRODUCT" => checkedAggregateOf .product false args
  | "SUBTOTAL" => checkedSubtotalOf args
  | "IF" => checkedIfOf args
  | "IFERROR" => checkedIfErrorOf args
  | "AND" => checkedScan (logicalStep true) (logicalEnd true) false args
  | "OR" => checkedScan (logicalStep false) (logicalEnd false) false args
  | "TRUE" => pure (.boolean true)
  | "FALSE" => pure (.boolean false)
  | "NOT" | "ABS" | "INT" | "SQRT" | "LEN" | "UPPER" | "LOWER" | "TRIM" | "ISNUMBER" | "ISTEXT"
  | "ISERROR" => checkedOne (callFunction name) args
  | "MOD" | "POWER" => checkedTwo (callFunction name) args
  | "ROUND" => checkedRoundOf args
  | "CONCATENATE" | "CONCAT" => checkedScan concatStep .text "" args
  | "LEFT" => checkedSliceOf (fun text n => text.take n) args
  | "RIGHT" => checkedSliceOf (fun text n => text.drop (text.length - n)) args
  | "MID" => checkedMidOf args
  | "ISBLANK" => checkedIsBlankOf args
  | _ => pure (.error .name)

/-! ## What follows what -/

/-- An argument gives its value and its cells, or it stops. -/
structure CheckedArgument.Follows (reason : Stop → Prop) (c : CheckedArgument) (arg : Argument) :
    Prop where
  value : Checked.Follows reason c.value (pure arg.value)
  isReference : c.isReference = arg.isReference
  cells : Checked.Follows reason c.cells (pure arg.cells)

section Follows

variable {reason : Stop → Prop} {cs : List CheckedArgument} {args : List Argument}

/-! ### Aggregates -/

theorem CheckedArgument.Follows.inputs {c : CheckedArgument} {arg : Argument}
    (h : c.Follows reason arg) (skipSubtotals : Bool) :
    Checked.Follows reason (c.inputs skipSubtotals) (pure (arg.inputs skipSubtotals)) := by
  obtain ⟨value, isReference, cells⟩ := arg
  rw [CheckedArgument.inputs, h.isReference]
  cases isReference with
  | true => exact h.cells.map rfl
  | false => exact h.value.map rfl

theorem checkedInputs_follows (skipSubtotals : Bool)
    (h : List.Forall₂ (CheckedArgument.Follows reason) cs args) :
    Checked.Follows reason (checkedInputs skipSubtotals cs)
      (pure (aggregateInputs skipSubtotals args)) := by
  induction h with
  | nil => exact .refl _
  | @cons c arg cs args hc _ ih =>
    rw [checkedInputs, aggregateInputs]
    refine (hc.inputs skipSubtotals).bind_pure ?_
    cases arg.inputs skipSubtotals with
    | error e => exact .refl _
    | ok here =>
      refine ih.map ?_
      cases aggregateInputs skipSubtotals args <;> rfl

theorem checkedAggregateOf_follows (kind : Aggregate) (skipSubtotals : Bool)
    (h : List.Forall₂ (CheckedArgument.Follows reason) cs args) :
    Checked.Follows reason (checkedAggregateOf kind skipSubtotals cs)
      (pure (aggregateOf kind skipSubtotals args)) := by
  rw [checkedAggregateOf, aggregateOf]
  refine (checkedInputs_follows skipSubtotals h).bind_pure ?_
  cases aggregateInputs skipSubtotals args <;> exact .refl _

theorem checkedSubtotalOf_follows (h : List.Forall₂ (CheckedArgument.Follows reason) cs args) :
    Checked.Follows reason (checkedSubtotalOf cs) (pure (subtotalOf args)) := by
  cases h with
  | nil => exact .refl _
  | @cons c arg cs args hc h =>
    rw [checkedSubtotalOf, subtotalOf]
    refine hc.value.bind_pure ?_
    have hkind : ∀ code, Checked.Follows reason
        (match Aggregate.ofCode? code with
          | none => pure (.error .value)
          | some kind => checkedAggregateOf kind true cs)
        (pure (match Aggregate.ofCode? code with
          | none => .error .value
          | some kind => aggregateOf kind true args)) := by
      intro code
      cases Aggregate.ofCode? code with
      | none => exact .refl _
      | some kind => exact checkedAggregateOf_follows kind true h
    cases arg.value with
    | error e => exact .refl _
    | number x => exact hkind _
    | boolean b => exact hkind _
    | text s =>
      dsimp only
      cases Value.asNumber? (.text s) with
      | none => exact .refl _
      | some x => exact hkind _
    | array items =>
      dsimp only
      cases Value.asNumber? (.array items) with
      | none => exact .refl _
      | some x => exact hkind _

/-! ### Truth values and texts -/

theorem checkedIfOf_follows (h : List.Forall₂ (CheckedArgument.Follows reason) cs args) :
    Checked.Follows reason (checkedIfOf cs) (pure (ifOf args)) := by
  cases h with
  | nil => exact .refl _
  | @cons c condition cs args hcondition h =>
    cases h with
    | nil => exact .refl _
    | @cons cyes yes crest rest hyes hrest =>
      unfold checkedIfOf ifOf
      dsimp only
      rw [hrest.length_eq]
      split
      · exact .refl _
      · refine hcondition.value.bind_pure ?_
        by_cases herror : condition.value.isError = true
        · rw [if_pos herror, if_pos herror]
          exact .refl _
        · rw [if_neg herror, if_neg herror]
          cases condition.value.asBoolean? with
          | none => exact .refl _
          | some b =>
            cases b with
            | true => exact hyes.value
            | false =>
              cases hrest with
              | nil => exact .refl _
              | cons hno _ => exact hno.value

theorem checkedIfErrorOf_follows {value fallback : CheckedArgument} {a b : Argument}
    (hvalue : value.Follows reason a) (hfallback : fallback.Follows reason b) :
    Checked.Follows reason (checkedIfErrorOf [value, fallback])
      (pure (if a.value.isError then b.value else a.value)) := by
  refine hvalue.value.bind_pure ?_
  split
  · exact hfallback.value
  · exact .refl _

theorem checkedScan_follows {σ : Type} (step : σ → Value → Except Value σ) (finish : σ → Value)
    (h : List.Forall₂ (CheckedArgument.Follows reason) cs args) (s : σ) :
    Checked.Follows reason (checkedScan step finish s cs)
      (pure (scanned step finish s (args.flatMap (·.value.flatten)))) := by
  induction h generalizing s with
  | nil => exact .refl _
  | @cons c arg cs args hc _ ih =>
    rw [checkedScan, List.flatMap_cons, scanned, List.foldlM_append]
    refine hc.value.bind_pure ?_
    cases arg.value.flatten.foldlM step s with
    | error result => exact .refl _
    | ok s => exact ih s

theorem scanned_cons {σ : Type} (step : σ → Value → Except Value σ) (finish : σ → Value) (s : σ)
    (value : Value) (values : List Value) :
    scanned step finish s (value :: values) =
      match step s value with
      | .error result => result
      | .ok s => scanned step finish s values := by
  rw [scanned, List.foldlM_cons]
  cases step s value <;> rfl

theorem scanLogical_cons (all seen : Bool) (value : Value) (values : List Value) :
    scanLogical all seen (value :: values) =
      match logicalStep all seen value with
      | .error result => result
      | .ok seen => scanLogical all seen values := by
  cases value with
  | error e => rfl
  | _ =>
    conv_lhs => unfold scanLogical
    unfold logicalStep
    dsimp only
    rcases Value.asBoolean? _ with _ | b
    · rfl
    · dsimp only
      split <;> rfl

theorem scanLogical_eq_scanned (all seen : Bool) (values : List Value) :
    scanLogical all seen values = scanned (logicalStep all) (logicalEnd all) seen values := by
  induction values generalizing seen with
  | nil => rfl
  | cons value values ih =>
    rw [scanLogical_cons, scanned_cons]
    cases logicalStep all seen value with
    | error result => rfl
    | ok seen => exact ih seen

theorem concatOf_eq_scanned (text : String) (values : List Value) :
    concatOf text values = scanned concatStep .text text values := by
  induction values generalizing text with
  | nil => rfl
  | cons value values ih =>
    rw [scanned_cons]
    cases value <;> first | rfl | exact ih _

theorem checkedLogical_follows (all : Bool)
    (h : List.Forall₂ (CheckedArgument.Follows reason) cs args) :
    Checked.Follows reason (checkedScan (logicalStep all) (logicalEnd all) false cs)
      (pure (logicalOf all args)) := by
  rw [logicalOf, scanLogical_eq_scanned]
  exact checkedScan_follows _ _ h false

theorem checkedConcat_follows (h : List.Forall₂ (CheckedArgument.Follows reason) cs args) :
    Checked.Follows reason (checkedScan concatStep .text "" cs)
      (pure (concatOf "" (args.flatMap (·.value.flatten)))) := by
  rw [concatOf_eq_scanned]
  exact checkedScan_follows _ _ h ""

/-! ### Functions of a fixed number of values -/

theorem checkedOne_follows {f : List Argument → Value} (hvalues : OfValues f)
    (hother : ∀ args, args.length ≠ 1 → f args = .error .value)
    (h : List.Forall₂ (CheckedArgument.Follows reason) cs args) :
    Checked.Follows reason (checkedOne f cs) (pure (f args)) := by
  rcases h with _ | ⟨harg, _ | ⟨_, _⟩⟩
  · rw [hother [] (by decide)]
    exact .refl _
  · exact harg.value.map (hvalues [_])
  · rw [hother _ (by simp)]
    exact .refl _

theorem withNumbers_of_numbersOf_eq_error {first second : Argument} {f : Float → Float → Value}
    {e : CellError} (h : numbersOf [.ofValue first.value] = .error e) :
    withNumbers [first, second] f = .error e := by
  have hboth : numbersOf [first, second] = .error e := by
    unfold numbersOf Argument.ofValue at h
    unfold numbersOf
    cases hvalue : first.value with
    | error e' =>
      rw [hvalue] at h
      exact h
    | _ =>
      rw [hvalue] at h
      dsimp only at h ⊢
      cases hnumber : Value.asNumber? _ with
      | none =>
        rw [hnumber] at h
        exact h
      | some x =>
        rw [hnumber] at h
        cases h
  unfold withNumbers
  rw [hboth]
  rfl

theorem checkedTwo_follows {f : List Argument → Value}
    (hf : ∃ k : Float → Float → Value, ∀ a b, f [a, b] = withNumbers [a, b] k)
    (hother : args.length ≠ 2 → f args = .error .value)
    (h : List.Forall₂ (CheckedArgument.Follows reason) cs args) :
    Checked.Follows reason (checkedTwo f cs) (pure (f args)) := by
  obtain ⟨k, hf⟩ := hf
  rcases h with _ | ⟨hfirst, _ | ⟨hsecond, _ | ⟨_, _⟩⟩⟩
  · rw [hother (by decide)]
    exact .refl _
  · rw [hother (by simp)]
    exact .refl _
  · rw [hf]
    refine hfirst.value.bind_pure ?_
    cases hnumbers : numbersOf [.ofValue _] with
    | error e =>
      rw [withNumbers_of_numbersOf_eq_error hnumbers]
      exact .refl _
    | ok xs => exact hsecond.value.map ((hf _ _).trans (ofValues_withNumbers k [_, _]))
  · rw [hother (by simp)]
    exact .refl _

theorem checkedRoundOf_follows (h : List.Forall₂ (CheckedArgument.Follows reason) cs args) :
    Checked.Follows reason (checkedRoundOf cs) (pure (roundOf args)) := by
  rcases h with _ | ⟨hfirst, _ | ⟨hsecond, hrest⟩⟩
  · exact .refl _
  · exact hfirst.value.map (ofValues_roundOf [_])
  · refine checkedTwo_follows ⟨_, fun a b => rfl⟩ (fun hlength => if_neg hlength) ?_
    exact .cons hfirst (.cons hsecond hrest)

theorem checkedSliceOf_follows (take : List Char → Nat → List Char)
    (h : List.Forall₂ (CheckedArgument.Follows reason) cs args) :
    Checked.Follows reason (checkedSliceOf take cs) (pure (sliceOf args take)) := by
  rcases h with _ | ⟨htext, _ | ⟨hcount, _ | ⟨_, _⟩⟩⟩
  · exact .refl _
  · exact htext.value.map rfl
  · refine htext.value.bind_pure ?_
    unfold sliceOf
    dsimp only
    split
    · exact .refl _
    · next hvalue => exact hcount.value.map (if_neg hvalue)
  · exact .refl _

theorem positionBefore_eq {n : Nat} (hpos : 1 ≤ n) (hlimit : n < sizeLimit) :
    positionBefore n = n - 1 := by
  have hsum : n + (sizeLimit - 1) = n - 1 + sizeLimit := by omega
  rw [positionBefore, hsum, Nat.add_mod_right, Nat.mod_eq_of_lt (by omega)]

/-- `MID` stops itself only if the place where it starts is not a number, which is not less than 1. -/
theorem checkedMidOf_follows
    (hstart : ∀ text start count x, args = [text, start, count] → start.value.asNumber? = some x →
      x.isNaN = true → reason (.below 0 1))
    (h : List.Forall₂ (CheckedArgument.Follows reason) cs args) :
    Checked.Follows reason (checkedMidOf cs) (pure (midOf args)) := by
  rcases h with _ | ⟨htext, _ | ⟨hplace, _ | ⟨hcount, _ | ⟨_, _⟩⟩⟩⟩
  · exact .refl _
  · exact .refl _
  · exact .refl _
  · refine htext.value.bind_pure ?_
    unfold midOf
    dsimp only
    split
    · exact .refl _
    · refine hplace.value.bind_pure (hcount.value.bind_pure ?_)
      cases hx : Value.asNumber? (Argument.value _) with
      | none => exact .refl _
      | some x =>
        cases Value.asNumber? (Argument.value _) with
        | none => exact .refl _
        | some n =>
          dsimp only
          split
          · exact .refl _
          · next hguard =>
            rw [Bool.or_eq_true, not_or] at hguard
            cases hnan : x.isNaN with
            | false =>
              have hpos := clampNat64_pos hnan (by simpa using hguard.1)
              rw [minus_eq hpos, positionBefore_eq hpos (UInt64.toNat_lt _)]
              exact .refl _
            | true =>
              have hzero : clampNat64 x = 0 := clampNat64_of_isNaN hnan
              refine .inr ⟨.below 0 1, hstart _ _ _ x rfl hx hnan, ?_⟩
              rw [hzero]
              rfl
  · exact .refl _

theorem checkedIsBlankOf_follows (h : List.Forall₂ (CheckedArgument.Follows reason) cs args) :
    Checked.Follows reason (checkedIsBlankOf cs) (pure (isBlankOf args)) := by
  rcases h with _ | ⟨harg, _ | ⟨_, _⟩⟩
  · exact .refl _
  · exact harg.cells.map rfl
  · exact .refl _

/-! ### By name -/

/-- A function call gives what it gives in any arithmetic, unless an argument stops it that it
evaluates, or the place where `MID` starts. -/
theorem checkedCall_follows (name : String)
    (hstart : ∀ text start count x, args = [text, start, count] → toUpperText name = "MID" →
      start.value.asNumber? = some x → x.isNaN = true → reason (.below 0 1))
    (h : List.Forall₂ (CheckedArgument.Follows reason) cs args) :
    Checked.Follows reason (checkedCall name cs) (pure (callFunction name args)) := by
  unfold checkedCall callFunction
  generalize toUpperText name = key at hstart
  split
  -- the two tables have the same rows, each with its own lemma
  all_goals first
    | exact .refl _
    | exact checkedAggregateOf_follows _ _ h
    | exact checkedSubtotalOf_follows h
    | exact checkedIfOf_follows h
    | exact checkedLogical_follows _ h
    | exact checkedConcat_follows h
    | exact checkedRoundOf_follows h
    | exact checkedSliceOf_follows _ h
    | exact checkedIsBlankOf_follows h
    | exact checkedMidOf_follows (fun text start count x hargs => hstart text start count x hargs rfl) h
    | exact checkedOne_follows (by rintro (_ | ⟨_, _ | _⟩) <;> rfl)
        (by rintro (_ | ⟨_, _ | ⟨_, _⟩⟩) hlength <;> first | rfl | exact absurd rfl hlength) h
    | (refine checkedTwo_follows ?_ (fun hlength => ?_) h
       exacts [⟨_, fun a b => rfl⟩, if_neg hlength])
    | (rcases h with _ | ⟨hvalue, _ | ⟨hfallback, _ | ⟨_, _⟩⟩⟩ <;>
        first | exact .refl _ | exact checkedIfErrorOf_follows hvalue hfallback)
    | (split <;> first | exact .refl _ | contradiction)

end Follows

end SheetPress
