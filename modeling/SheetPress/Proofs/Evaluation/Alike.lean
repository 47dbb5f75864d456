import Mathlib
import SheetPress.Evaluation.Basic
import SheetPress.Proofs.Formula.References

/-!
# Expressions that see the same cells

Evaluating an expression reads the cells that its references cover and nothing else of a scope.  Of
those it uses the values, whether there is a formula, and whether that formula is a subtotal; gaps
are passed over.

* `callFunction_congr` — a function gives the same value for arguments that are alike.
* `Expr.eval_mapReferences` — an expression keeps its value when its references are replaced by
  others that see the same cells in another scope.
-/

namespace SheetPress

/-! ## Cells and arguments that are alike -/

/-- Two cells that expressions cannot tell apart. -/
structure Cell.Alike (a b : Cell) : Prop where
  value : a.value = b.value
  hasFormula : a.hasFormula = b.hasFormula
  holdsSubtotal : holdsSubtotal a = holdsSubtotal b

theorem Cell.Alike.refl (a : Cell) : a.Alike a := ⟨rfl, rfl, rfl⟩

/-- Two lists of visited cells that expressions cannot tell apart.  Gaps count only where a single
place is visited. -/
structure AlikeCells (cells cells' : List (Option Cell)) : Prop where
  stored : List.Forall₂ Cell.Alike (cells.filterMap id) (cells'.filterMap id)
  single : cells.length = 1 ↔ cells'.length = 1

/-- Two arguments that functions cannot tell apart. -/
structure Argument.Alike (a b : Argument) : Prop where
  value : a.value = b.value
  isReference : a.isReference = b.isReference
  cells : Option.Rel AlikeCells a.cells b.cells

section Congr

variable {args args' : List Argument}

theorem filterMap_congr_of_forall₂ {α β γ : Type} {R : α → β → Prop} {f : α → Option γ}
    {f' : β → Option γ} (hf : ∀ a b, R a b → f a = f' b) {xs : List α} {ys : List β}
    (h : List.Forall₂ R xs ys) : xs.filterMap f = ys.filterMap f' := by
  induction h with
  | nil => rfl
  | cons hab _ ih => rw [List.filterMap_cons, List.filterMap_cons, hf _ _ hab, ih]

/-! ## Aggregates -/

theorem cellInput?_congr (skipSubtotals : Bool) {a b : Cell} (h : a.Alike b) :
    cellInput? skipSubtotals a = cellInput? skipSubtotals b := by
  unfold cellInput?
  rw [h.value, h.hasFormula, h.holdsSubtotal]

theorem Argument.inputs_congr (skipSubtotals : Bool) {a b : Argument} (h : a.Alike b) :
    a.inputs skipSubtotals = b.inputs skipSubtotals := by
  obtain ⟨value, isReference, cells⟩ := a
  obtain ⟨value', isReference', cells'⟩ := b
  obtain ⟨hvalue, hreference, hcells⟩ := h
  dsimp only at hvalue hreference hcells
  subst hvalue hreference
  unfold Argument.inputs
  cases hcells with
  | none => rfl
  | some h =>
    dsimp only
    rw [filterMap_congr_of_forall₂ (fun _ _ h => cellInput?_congr skipSubtotals h) h.stored]

theorem aggregateInputs_congr (skipSubtotals : Bool) (h : List.Forall₂ Argument.Alike args args') :
    aggregateInputs skipSubtotals args = aggregateInputs skipSubtotals args' := by
  induction h with
  | nil => rfl
  | cons hab _ ih => rw [aggregateInputs, aggregateInputs, Argument.inputs_congr _ hab, ih]

theorem aggregateOf_congr (kind : Aggregate) (skipSubtotals : Bool)
    (h : List.Forall₂ Argument.Alike args args') :
    aggregateOf kind skipSubtotals args = aggregateOf kind skipSubtotals args' := by
  rw [aggregateOf, aggregateOf, aggregateInputs_congr _ h]

theorem subtotalOf_congr (h : List.Forall₂ Argument.Alike args args') :
    subtotalOf args = subtotalOf args' := by
  cases h with
  | nil => rfl
  | cons hab h =>
    simp only [subtotalOf, hab.value, aggregateOf_congr _ _ h]

theorem isBlankOf_congr (h : List.Forall₂ Argument.Alike args args') :
    isBlankOf args = isBlankOf args' := by
  cases h with
  | nil => rfl
  | cons hab h =>
    cases h with
    | cons => rfl
    | nil =>
      have hcells := hab.cells
      simp only [isBlankOf]
      generalize Argument.cells _ = left at hcells ⊢
      generalize Argument.cells _ = right at hcells ⊢
      cases hcells with
      | none => rfl
      | @some cells cells' hcells =>
        obtain ⟨hstored, hsingle⟩ := hcells
        rcases cells with _ | ⟨x, _ | ⟨x', xs⟩⟩ <;> rcases cells' with _ | ⟨y, _ | ⟨y', ys⟩⟩
        case cons.nil.cons.nil =>
          rcases x with _ | a <;> rcases y with _ | b
          · rfl
          · cases hstored
          · cases hstored
          · obtain ⟨hab, -⟩ := List.forall₂_cons.1 hstored
            exact congrArg (fun value : CellValue => Value.boolean value.isEmpty) hab.value
        case nil.cons.cons => cases y <;> rfl
        case cons.cons.nil => cases x <;> rfl
        case cons.cons.cons.cons => cases x <;> cases y <;> rfl
        all_goals first | rfl | simp at hsingle

/-! ## Functions of values -/

/-- An argument with nothing but its value. -/
def Argument.bare (arg : Argument) : Argument := ⟨arg.value, false, none⟩

/-- A function that looks at the values of its arguments only. -/
def OfValues {α : Type} (f : List Argument → α) : Prop :=
  ∀ args, f (args.map Argument.bare) = f args

theorem OfValues.congr {α : Type} {f : List Argument → α} (hf : OfValues f)
    (h : List.Forall₂ Argument.Alike args args') : f args = f args' := by
  have hbare : args.map Argument.bare = args'.map Argument.bare := by
    induction h with
    | nil => rfl
    | cons hab _ ih => rw [List.map_cons, List.map_cons, ih, Argument.bare, hab.value]; rfl
  rw [← hf args, hbare, hf args']

theorem ofValues_flatten : OfValues fun args => args.flatMap (·.value.flatten) := by
  intro args
  exact List.flatMap_map ..

theorem ofValues_logicalOf (all : Bool) : OfValues (logicalOf all) := by
  intro args
  exact congrArg (scanLogical all false) (ofValues_flatten args)

theorem ofValues_ifOf : OfValues ifOf := by
  rintro (_ | ⟨condition, _ | ⟨yes, _ | ⟨no, _ | ⟨more, rest⟩⟩⟩⟩)
  · rfl
  · rfl
  · rfl
  · simp only [List.map_cons, List.map_nil, ifOf, Argument.bare]
    rcases condition.value.asBoolean? with _ | _ | _ <;> rfl
  · simp [ifOf]

theorem ofValues_numbersOf : OfValues numbersOf := by
  intro args
  induction args with
  | nil => rfl
  | cons arg args ih =>
    rw [List.map_cons, numbersOf, numbersOf, ih]
    rfl

theorem ofValues_withNumber (f : Float → Value) : OfValues fun args => withNumber args f := by
  intro args
  show withNumber _ f = withNumber args f
  unfold withNumber
  rw [List.length_map, ofValues_numbersOf]

theorem ofValues_withNumbers (f : Float → Float → Value) :
    OfValues fun args => withNumbers args f := by
  intro args
  show withNumbers _ f = withNumbers args f
  unfold withNumbers
  rw [List.length_map, ofValues_numbersOf]

theorem ofValues_roundOf : OfValues roundOf := by
  rintro (_ | ⟨arg, _ | ⟨digits, rest⟩⟩)
  · rfl
  · exact ofValues_withNumber _ [arg]
  · exact ofValues_withNumbers _ (arg :: digits :: rest)

theorem ofValues_withText (f : String → Value) : OfValues fun args => withText args f := by
  rintro (_ | ⟨arg, _ | ⟨_, rest⟩⟩) <;> rfl

theorem ofValues_sliceOf (take : List Char → Nat → List Char) :
    OfValues fun args => sliceOf args take := by
  rintro (_ | ⟨arg, _ | ⟨count, _ | ⟨_, rest⟩⟩⟩) <;> rfl

theorem ofValues_midOf : OfValues midOf := by
  rintro (_ | ⟨text, _ | ⟨start, _ | ⟨count, _ | ⟨_, rest⟩⟩⟩⟩) <;> rfl

theorem ofValues_askOf (test : Value → Bool) : OfValues fun args => askOf args test := by
  rintro (_ | ⟨arg, _ | ⟨_, rest⟩⟩) <;> rfl

/-! ## By name -/

theorem callFunction_congr (name : String) (h : List.Forall₂ Argument.Alike args args') :
    callFunction name args = callFunction name args' := by
  unfold callFunction
  generalize toUpperText name = key
  split
  all_goals first
    | rfl
    | exact aggregateOf_congr _ _ h
    | exact subtotalOf_congr h
    | exact isBlankOf_congr h
    | exact ofValues_ifOf.congr h
    | exact (ofValues_logicalOf _).congr h
    | exact (ofValues_withNumber _).congr h
    | exact (ofValues_withNumbers _).congr h
    | exact ofValues_roundOf.congr h
    | exact (ofValues_withText _).congr h
    | exact (ofValues_sliceOf _).congr h
    | exact ofValues_midOf.congr h
    | exact (ofValues_askOf _).congr h
    | exact congrArg _ (ofValues_flatten.congr h)
    | (rcases h with _ | ⟨h₁, _ | ⟨h₂, _ | _⟩⟩ <;> first | rfl | simp only [h₁.value, h₂.value])
    | (rcases h with _ | ⟨h₁, _ | _⟩ <;> first | rfl | simp only [h₁.value])

end Congr

/-! ## Expressions -/

/-- Whether an expression is a reference to one cell. -/
def Expr.isCell : Expr → Bool
  | .cell .. => true
  | _ => false

/-- A reference sees in one scope what another one sees in another scope. -/
structure SeesAlike (scope scope' : Scope) (r r' : Expr) : Prop where
  isReference : r'.isReference = true
  isCell : r.isCell = r'.isCell
  cells : Option.Rel AlikeCells (r.visit? scope) (r'.visit? scope')

namespace Expr

variable {scope scope' : Scope} {g : Expr → Expr}

theorem cellOperand_congr {cells cells' : List (Option Cell)} (h : AlikeCells cells cells')
    (hsingle : cells.length = 1) :
    cellOperand (cells.headD none) = cellOperand (cells'.headD none) := by
  obtain ⟨x, rfl⟩ := List.length_eq_one_iff.1 hsingle
  obtain ⟨y, rfl⟩ := List.length_eq_one_iff.1 (h.single.1 hsingle)
  have hstored := h.stored
  rcases x with _ | a <;> rcases y with _ | b
  · rfl
  · cases hstored
  · cases hstored
  · obtain ⟨hab, -⟩ := List.forall₂_cons.1 hstored
    exact congrArg Value.ofCell hab.value

theorem length_visit?_of_isCell {e : Expr} {cells : List (Option Cell)} (he : e.isCell = true)
    (h : e.visit? scope = some cells) : cells.length = 1 := by
  cases e <;> cases he
  simp only [visit?, Option.map_eq_some_iff] at h
  obtain ⟨g, -, rfl⟩ := h
  rfl

theorem referenceValue_eq (scope : Scope) (e : Expr) :
    referenceValue scope e =
      match e.visit? scope with
      | some cells =>
        if e.isCell then cellOperand (cells.headD none)
        else .array ((cells.filterMap id).map fun cell => .ofCell cell.value)
      | none => .error .reference := by
  unfold referenceValue
  cases e <;> cases visit? scope _ <;> rfl

theorem referenceValue_congr {r r' : Expr} (h : SeesAlike scope scope' r r') :
    referenceValue scope' r' = referenceValue scope r := by
  rw [referenceValue_eq, referenceValue_eq, h.isCell]
  have hcells := h.cells
  cases hvisit : r.visit? scope with
  | none =>
    rw [hvisit] at hcells
    generalize r'.visit? scope' = visited at hcells
    cases hcells
    rfl
  | some cells =>
    rw [hvisit] at hcells
    cases hvisit' : r'.visit? scope' with
    | none =>
      rw [hvisit'] at hcells
      cases hcells
    | some cells' =>
      rw [hvisit'] at hcells
      cases hcells with
      | some hcells =>
        by_cases hcell : r'.isCell = true
        · have hsingle := length_visit?_of_isCell (h.isCell.trans hcell) hvisit
          simp only [hcell, if_true, cellOperand_congr hcells hsingle]
        · simp only [hcell, if_false, Bool.false_eq_true]
          congr 1
          have hstored := hcells.stored
          generalize cells.filterMap id = stored at hstored
          generalize cells'.filterMap id = stored' at hstored
          induction hstored with
          | nil => rfl
          | cons hab _ ih => rw [List.map_cons, List.map_cons, ih, hab.value]

theorem eval_of_isReference (scope : Scope) {e : Expr} (h : e.isReference = true) :
    e.eval scope = referenceValue scope e := by
  cases e <;> first | rfl | cases h

theorem eval_reference {e : Expr} (he : e.isReference = true)
    (h : ∀ r ∈ e.references, SeesAlike scope scope' r (g r)) :
    (e.mapReferences g).eval scope' = e.eval scope := by
  rw [references_of_isReference he] at h
  have halike := h e (List.mem_singleton_self e)
  rw [mapReferences_of_isReference g he, eval_of_isReference scope he,
    eval_of_isReference scope' halike.isReference, referenceValue_congr halike]

/-- An argument is alike if it has the same value. -/
theorem argument_alike {e : Expr} (h : ∀ r ∈ e.references, SeesAlike scope scope' r (g r))
    (heval : (e.mapReferences g).eval scope' = e.eval scope) :
    Argument.Alike ⟨e.eval scope, e.isReference, e.visit? scope⟩
      ⟨(e.mapReferences g).eval scope', (e.mapReferences g).isReference,
        (e.mapReferences g).visit? scope'⟩ := by
  by_cases he : e.isReference = true
  · rw [references_of_isReference he] at h
    have halike := h e (List.mem_singleton_self e)
    refine ⟨heval.symm, ?_, ?_⟩
    · rw [mapReferences_of_isReference g he, halike.isReference, he]
    · rw [mapReferences_of_isReference g he]
      exact halike.cells
  · refine ⟨heval.symm, ?_, ?_⟩ <;> cases e <;> first | exact absurd rfl he | skip
    all_goals first | rfl | exact .none

mutual

/-- An expression keeps its value when its references are replaced by others that see the same cells
in another scope. -/
theorem eval_mapReferences : ∀ {e : Expr},
    (∀ r ∈ e.references, SeesAlike scope scope' r (g r)) →
      (e.mapReferences g).eval scope' = e.eval scope
  | .literal _, _ => rfl
  | .cell sheet ref, h => eval_reference (e := .cell sheet ref) rfl h
  | .range sheet first last, h => eval_reference (e := .range sheet first last) rfl h
  | .columns sheet first last, h => eval_reference (e := .columns sheet first last) rfl h
  | .rows sheet first last, h => eval_reference (e := .rows sheet first last) rfl h
  | .binary op left right, h => by
    rw [references] at h
    rw [mapReferences, eval, eval, eval_mapReferences fun r hr => h r (List.mem_append_left _ hr),
      eval_mapReferences fun r hr => h r (List.mem_append_right _ hr)]
  | .unary op operand, h => by
    rw [references] at h
    rw [mapReferences, eval, eval, eval_mapReferences h]
  | .call name args, h => by
    rw [references] at h
    rw [mapReferences, eval, eval, callFunction_congr name (evalArguments_mapReferencesAll h)]

theorem evalArguments_mapReferencesAll : ∀ {args : List Expr},
    (∀ r ∈ referencesAll args, SeesAlike scope scope' r (g r)) →
      List.Forall₂ Argument.Alike (evalArguments scope args)
        (evalArguments scope' (mapReferencesAll g args))
  | [], _ => .nil
  | arg :: rest, h => by
    rw [referencesAll] at h
    have harg := fun r hr => h r (List.mem_append_left _ hr)
    rw [mapReferencesAll, evalArguments, evalArguments]
    exact .cons (argument_alike harg (eval_mapReferences harg))
      (evalArguments_mapReferencesAll fun r hr => h r (List.mem_append_right _ hr))

end

end Expr

end SheetPress
