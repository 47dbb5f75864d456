import Mathlib
import SheetPress.Proofs.Checked.Functions
import SheetPress.Proofs.Formula.Names
import SheetPress.Proofs.Formula.Rewriting

/-!
# Formulas evaluated in checked arithmetic

Evaluating a formula computes the columns of its references from their letters, which may be too many
for a machine number, and positions in texts where `MID` is called.  Nothing else is counted: rows are
read as they are written, and row 0 is row 1.

* `Expr.Stops` — why the evaluation of an expression stops.
* `Expr.checkedEval_follows` — an expression has the value that it has in any arithmetic, unless its
  evaluation stops.
* `lettersValue_of_stops` — which letters of a formula stop it.
-/

namespace SheetPress

/-! ## References -/

/-- The place that a reference to a cell names. -/
def CellRef.checkedPlace (r : CellRef) : Checked Coord := do
  return ⟨r.row - 1, ← checkedColumnIndex r.column.toList⟩

namespace Expr

/-- The columns that a reference names. -/
def columnTexts : Expr → List String
  | cell _ a => [a.column]
  | range _ a b => [a.column, b.column]
  | columns _ a b => [a.column, b.column]
  | _ => []

/-- The cells that a reference covers; the letters of columns are read once its sheet is found. -/
def checkedVisit? (scope : Scope) : Expr → Checked (Option (List (Option Cell)))
  | cell sheet ref => (scope.grid? sheet).mapM fun g => do
    let place ← ref.checkedPlace
    return [g.get? place]
  | range sheet first last => (scope.grid? sheet).mapM fun g => do
    let a ← first.checkedPlace
    let b ← last.checkedPlace
    return g.inRectangle a b
  | columns sheet first last => (scope.grid? sheet).mapM fun g => do
    let a ← checkedColumnIndex first.column.toList
    let b ← checkedColumnIndex last.column.toList
    return (g.inColumns a b).map some
  | rows sheet first last =>
    pure ((scope.grid? sheet).map fun g => (g.inRows (first - 1) (last - 1)).map some)
  | _ => pure none

/-- The value of a reference from the cells that it covers. -/
def valueOfVisited (e : Expr) (visited : Option (List (Option Cell))) : Value :=
  match e, visited with
  | cell .., some cells => cellOperand (cells.headD none)
  | _, some cells => .array ((cells.filterMap id).map fun cell => .ofCell cell.value)
  | _, none => .error .reference

/-- The value of a reference. -/
def checkedReferenceValue (scope : Scope) (e : Expr) : Checked Value := do
  return e.valueOfVisited (← e.checkedVisit? scope)

/-! ## Expressions -/

mutual

/-- The value of an expression. -/
def checkedEval (scope : Scope) : Expr → Checked Value
  | literal value => pure value.value
  | cell sheet ref => checkedReferenceValue scope (cell sheet ref)
  | range sheet first last => checkedReferenceValue scope (range sheet first last)
  | columns sheet first last => checkedReferenceValue scope (columns sheet first last)
  | rows sheet first last => checkedReferenceValue scope (rows sheet first last)
  | binary op left right => do
    let a ← checkedEval scope left
    let b ← checkedEval scope right
    return op.eval a b
  | unary op operand => do
    let value ← checkedEval scope operand
    return op.eval value
  | call name args => checkedCall name (checkedArguments scope args)

/-- The arguments of a function call, none of them evaluated. -/
def checkedArguments (scope : Scope) : List Expr → List CheckedArgument
  | [] => []
  | arg :: rest =>
    ⟨checkedEval scope arg, arg.isReference, arg.checkedVisit? scope⟩ :: checkedArguments scope rest

end

/-! ## Why an evaluation stops -/

/-- The argument that says where `MID` starts, if it is called with these arguments. -/
def startOfMid (name : String) : List Expr → List Expr
  | [_, start, _] => if toUpperText name = "MID" then [start] else []
  | _ => []

mutual

/-- The arguments that say where a call of `MID` in an expression starts. -/
def midStarts : Expr → List Expr
  | binary _ left right => midStarts left ++ midStarts right
  | unary _ operand => midStarts operand
  | call name args => startOfMid name args ++ midStartsAll args
  | _ => []

/-- Those of several expressions. -/
def midStartsAll : List Expr → List Expr
  | [] => []
  | arg :: rest => midStarts arg ++ midStartsAll rest

end

/-- Why the evaluation of an expression stops: the letters of a column are too many, or `MID` starts
at a place that is not a number. -/
inductive Stops (scope : Scope) (e : Expr) : Stop → Prop
  | column {r : Expr} {column : String} {stop : Stop} (hr : r ∈ e.references)
      (hcolumn : column ∈ r.columnTexts) (hstop : checkedColumnIndex column.toList = .error stop) :
      Stops scope e stop
  | mid {start : Expr} {x : Float} (hstart : start ∈ e.midStarts)
      (hx : (start.eval scope).asNumber? = some x) (hnan : x.isNaN = true) :
      Stops scope e (.below 0 1)

variable {scope : Scope}

/-- A part of an expression stops nothing that the expression does not. -/
theorem Stops.mono {part e : Expr} {stop : Stop} (h : part.Stops scope stop)
    (hreferences : part.references ⊆ e.references) (hstarts : part.midStarts ⊆ e.midStarts) :
    e.Stops scope stop := by
  cases h with
  | column hr hcolumn hstop => exact .column (hreferences hr) hcolumn hstop
  | mid hstart hx hnan => exact .mid (hstarts hstart) hx hnan

theorem midStartsAll_eq_flatMap (args : List Expr) : midStartsAll args = args.flatMap midStarts := by
  induction args with
  | nil => rfl
  | cons arg args ih => rw [midStartsAll, ih, List.flatMap_cons]

theorem Stops.of_argument {name : String} {args : List Expr} {arg : Expr} {stop : Stop}
    (h : arg.Stops scope stop) (hmem : arg ∈ args) : (call name args).Stops scope stop := by
  refine h.mono (fun r hr => ?_) fun start hstart => ?_
  · rw [references, referencesAll_eq_flatMap]
    exact List.mem_flatMap_of_mem hmem hr
  · rw [midStarts, midStartsAll_eq_flatMap]
    exact List.mem_append_right _ (List.mem_flatMap_of_mem hmem hstart)

/-! ## Values -/

/-- A column that a reference names is computed, unless it stops the reference. -/
theorem checkedColumn_follows {r : Expr} (hr : r.isReference = true) {column : String}
    (hcolumn : column ∈ r.columnTexts) :
    Checked.Follows (r.Stops scope) (checkedColumnIndex column.toList)
      (pure (columnIndex column.toList)) := by
  have hself : r ∈ r.references := by
    rw [references_of_isReference hr]
    exact List.mem_singleton_self r
  exact (checkedColumnIndex_follows column.toList).mono fun stop hstop =>
    .column hself hcolumn hstop

/-- Both columns of a reference that has two are computed, unless one of them stops it. -/
theorem checkedColumns_follows {r : Expr} (hr : r.isReference = true) {first last : String}
    (hcolumns : r.columnTexts = [first, last]) :
    Checked.Follows (r.Stops scope) (checkedColumnIndex first.toList)
        (pure (columnIndex first.toList)) ∧
      Checked.Follows (r.Stops scope) (checkedColumnIndex last.toList)
        (pure (columnIndex last.toList)) :=
  ⟨checkedColumn_follows hr (by simp [hcolumns]), checkedColumn_follows hr (by simp [hcolumns])⟩

theorem checkedVisit?_follows (scope : Scope) (e : Expr) :
    Checked.Follows (e.Stops scope) (e.checkedVisit? scope) (pure (e.visit? scope)) := by
  cases e with
  | cell sheet ref =>
    have hcolumn : Checked.Follows ((cell sheet ref).Stops scope) _ _ :=
      checkedColumn_follows rfl (List.mem_singleton_self ref.column)
    dsimp only [checkedVisit?, visit?]
    cases scope.grid? sheet with
    | none => exact .refl _
    | some g => exact ((hcolumn.map rfl).map rfl).bind_pure (.refl _)
  | range sheet first last =>
    obtain ⟨hfirst, hlast⟩ := checkedColumns_follows (r := range sheet first last) rfl rfl
    dsimp only [checkedVisit?, visit?]
    cases scope.grid? sheet with
    | none => exact .refl _
    | some g => exact ((hfirst.map rfl).bind_pure ((hlast.map rfl).map rfl)).bind_pure (.refl _)
  | columns sheet first last =>
    obtain ⟨hfirst, hlast⟩ := checkedColumns_follows (r := columns sheet first last) rfl rfl
    dsimp only [checkedVisit?, visit?]
    cases scope.grid? sheet with
    | none => exact .refl _
    | some g => exact (hfirst.bind_pure (hlast.map rfl)).bind_pure (.refl _)
  | _ => exact .refl _

theorem checkedReferenceValue_follows (scope : Scope) (e : Expr) :
    Checked.Follows (e.Stops scope) (e.checkedReferenceValue scope) (pure (e.referenceValue scope)) :=
  (checkedVisit?_follows scope e).map rfl

mutual

/-- An expression has the value that it has in any arithmetic, unless its evaluation stops. -/
theorem checkedEval_follows (scope : Scope) : ∀ e : Expr,
    Checked.Follows (e.Stops scope) (e.checkedEval scope) (pure (e.eval scope))
  | literal value => .refl _
  | cell sheet ref => checkedReferenceValue_follows scope (cell sheet ref)
  | range sheet first last => checkedReferenceValue_follows scope (range sheet first last)
  | columns sheet first last => checkedReferenceValue_follows scope (columns sheet first last)
  | rows sheet first last => checkedReferenceValue_follows scope (rows sheet first last)
  | binary op left right => by
    have hleft := (checkedEval_follows scope left).mono fun stop h =>
      h.mono (e := binary op left right) (List.subset_append_left ..) (List.subset_append_left ..)
    have hright := (checkedEval_follows scope right).mono fun stop h =>
      h.mono (e := binary op left right) (List.subset_append_right ..) (List.subset_append_right ..)
    exact hleft.bind_pure (hright.map rfl)
  | unary op operand => by
    have hoperand := (checkedEval_follows scope operand).mono fun stop h =>
      h.mono (e := unary op operand) (List.Subset.refl _) (List.Subset.refl _)
    exact hoperand.map rfl
  | call name args => by
    refine checkedCall_follows name (fun text start count x hargs hname hx hnan => ?_)
      (checkedArguments_follows scope args fun arg hmem stop h => h.of_argument hmem)
    -- the arguments are those of the call, so the second one says where `MID` starts
    rcases args with _ | ⟨a, _ | ⟨b, _ | ⟨c, _ | ⟨d, args⟩⟩⟩⟩ <;> cases hargs
    have hstart : b ∈ (call name [a, b, c]).midStarts := by
      rw [midStarts, startOfMid, if_pos hname]
      exact List.mem_cons_self ..
    exact .mid hstart hx hnan

theorem checkedArguments_follows (scope : Scope) {reason : Stop → Prop} : ∀ args : List Expr,
    (∀ arg ∈ args, ∀ stop, arg.Stops scope stop → reason stop) →
      List.Forall₂ (CheckedArgument.Follows reason) (checkedArguments scope args)
        (evalArguments scope args)
  | [], _ => .nil
  | arg :: rest, h => by
    have harg := h arg (List.mem_cons_self ..)
    rw [checkedArguments, evalArguments]
    exact .cons ⟨(checkedEval_follows scope arg).mono harg, rfl,
        (checkedVisit?_follows scope arg).mono harg⟩
      (checkedArguments_follows scope rest fun e he => h e (List.mem_cons_of_mem _ he))

end

/-- The columns of a formula are letters. -/
theorem isAsciiLetter_of_parseFormula {formula : String} {e r : Expr} {column : String}
    (h : parseFormula formula = .ok e) (hr : r ∈ e.references) (hcolumn : column ∈ r.columnTexts) :
    ∀ c ∈ column.toList, isAsciiLetter c = true := by
  have hcell : ∀ {name : String} {ref : CellRef}, cellRef name = .ok ref →
      ∀ c ∈ ref.column.toList, isAsciiLetter c = true := fun hname c hc =>
    isAsciiLetter_iff.2 (.inl ((CellRef.written_of_cellRef hname).isUpper c hc))
  have hwhole : ∀ {name : String} {ref : ColumnRef}, columnRef? name = some ref →
      ∀ c ∈ ref.column.toList, isAsciiLetter c = true := by
    intro name ref hname c hc
    cases columnRef?_eq_some_iff.1 hname with
    | @intro fixed letters hletters hletter =>
      rw [String.toList_ofList] at hc
      obtain ⟨d, hd, rfl⟩ := List.mem_map.1 hc
      exact isAsciiLetter_iff.2 (.inl (isUpper_toUpper (hletter d hd)))
  have hread : ∀ r ∈ e.references, ∀ column ∈ r.columnTexts, ∀ c ∈ column.toList,
      isAsciiLetter c = true := by
    refine (parseTokens_eq_ok_iff.1 h).forall_references fun hbody => ?_
    cases hbody with
    | cell ha => simpa [columnTexts] using hcell ha
    | range ha hb => simpa [columnTexts] using ⟨hcell ha, hcell hb⟩
    | columns ha hb => simpa [columnTexts] using ⟨hwhole ha, hwhole hb⟩
    | rows ha hb => exact nofun
  exact hread r hr column hcolumn

end Expr

end SheetPress
