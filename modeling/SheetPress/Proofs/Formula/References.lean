import Mathlib
import SheetPress.Evaluation.Scope

/-!
# References of an expression

The references that occur in an expression, and the expression with each of them replaced.  Replacing
references by references keeps the shape of the tree: operators, literals and the functions that are
called (`Expr.calls_mapReferences`).
-/

namespace SheetPress

namespace Expr

mutual

/-- The references of an expression in the order of its text. -/
def references : Expr → List Expr
  | literal _ => []
  | binary _ left right => references left ++ references right
  | unary _ operand => references operand
  | call _ args => referencesAll args
  | e => [e]

/-- The references of several expressions. -/
def referencesAll : List Expr → List Expr
  | [] => []
  | arg :: rest => references arg ++ referencesAll rest

end

mutual

/-- An expression with every reference replaced. -/
def mapReferences (g : Expr → Expr) : Expr → Expr
  | literal value => literal value
  | binary op left right => binary op (mapReferences g left) (mapReferences g right)
  | unary op operand => unary op (mapReferences g operand)
  | call name args => call name (mapReferencesAll g args)
  | e => g e

/-- Several expressions with every reference replaced. -/
def mapReferencesAll (g : Expr → Expr) : List Expr → List Expr
  | [] => []
  | arg :: rest => mapReferences g arg :: mapReferencesAll g rest

end

theorem referencesAll_eq_flatMap (args : List Expr) :
    referencesAll args = args.flatMap references := by
  induction args with
  | nil => rfl
  | cons arg args ih => rw [referencesAll, ih, List.flatMap_cons]

theorem mapReferencesAll_eq_map (g : Expr → Expr) (args : List Expr) :
    mapReferencesAll g args = args.map (mapReferences g) := by
  induction args with
  | nil => rfl
  | cons arg args ih => rw [mapReferencesAll, ih, List.map_cons]

theorem references_of_isReference {e : Expr} (h : e.isReference = true) : e.references = [e] := by
  cases e <;> first | rfl | cases h

theorem mapReferences_of_isReference (g : Expr → Expr) {e : Expr} (h : e.isReference = true) :
    e.mapReferences g = g e := by
  cases e <;> first | rfl | cases h

mutual

theorem isReference_of_mem_references {r : Expr} :
    ∀ {e : Expr}, r ∈ e.references → r.isReference = true
  | .literal _, h => by cases h
  | .cell .., h => by obtain rfl := List.mem_singleton.1 h; rfl
  | .range .., h => by obtain rfl := List.mem_singleton.1 h; rfl
  | .columns .., h => by obtain rfl := List.mem_singleton.1 h; rfl
  | .rows .., h => by obtain rfl := List.mem_singleton.1 h; rfl
  | .binary _ left right, h => by
    rw [references] at h
    rcases List.mem_append.1 h with h | h
    · exact isReference_of_mem_references h
    · exact isReference_of_mem_references h
  | .unary _ operand, h => by
    rw [references] at h
    exact isReference_of_mem_references h
  | .call _ args, h => by
    rw [references] at h
    exact isReference_of_mem_referencesAll h

theorem isReference_of_mem_referencesAll {r : Expr} :
    ∀ {args : List Expr}, r ∈ referencesAll args → r.isReference = true
  | [], h => by cases h
  | arg :: rest, h => by
    rw [referencesAll] at h
    rcases List.mem_append.1 h with h | h
    · exact isReference_of_mem_references h
    · exact isReference_of_mem_referencesAll h

end

mutual

theorem mapReferences_id : ∀ e : Expr, e.mapReferences id = e
  | .literal _ => rfl
  | .cell .. => rfl
  | .range .. => rfl
  | .columns .. => rfl
  | .rows .. => rfl
  | .binary _ left right => by
    rw [mapReferences, mapReferences_id left, mapReferences_id right]
  | .unary _ operand => by rw [mapReferences, mapReferences_id operand]
  | .call _ args => by rw [mapReferences, mapReferencesAll_id args]

theorem mapReferencesAll_id : ∀ args : List Expr, mapReferencesAll id args = args
  | [] => rfl
  | arg :: rest => by rw [mapReferencesAll, mapReferences_id arg, mapReferencesAll_id rest]

end

theorem calls_of_isReference (name : String) {e : Expr} (h : e.isReference = true) :
    e.calls name = false := by
  cases e <;> first | rfl | cases h

mutual

/-- An expression calls the same functions when its references are replaced by references. -/
theorem calls_mapReferences {g : Expr → Expr} (name : String) :
    ∀ {e : Expr}, (∀ r ∈ e.references, (g r).isReference = true) →
      (e.mapReferences g).calls name = e.calls name
  | .literal _, _ => rfl
  | .cell .., h => calls_of_isReference name (h _ (List.mem_singleton_self _))
  | .range .., h => calls_of_isReference name (h _ (List.mem_singleton_self _))
  | .columns .., h => calls_of_isReference name (h _ (List.mem_singleton_self _))
  | .rows .., h => calls_of_isReference name (h _ (List.mem_singleton_self _))
  | .binary _ left right, h => by
    rw [references] at h
    rw [mapReferences, calls, calls,
      calls_mapReferences name fun r hr => h r (List.mem_append_left _ hr),
      calls_mapReferences name fun r hr => h r (List.mem_append_right _ hr)]
  | .unary _ operand, h => by
    rw [references] at h
    rw [mapReferences, calls, calls, calls_mapReferences name h]
  | .call _ args, h => by
    rw [references] at h
    rw [mapReferences, calls, calls, anyCalls_mapReferencesAll name h]

theorem anyCalls_mapReferencesAll {g : Expr → Expr} (name : String) :
    ∀ {args : List Expr}, (∀ r ∈ referencesAll args, (g r).isReference = true) →
      anyCalls name (mapReferencesAll g args) = anyCalls name args
  | [], _ => rfl
  | arg :: rest, h => by
    rw [referencesAll] at h
    rw [mapReferencesAll, anyCalls, anyCalls,
      calls_mapReferences name fun r hr => h r (List.mem_append_left _ hr),
      anyCalls_mapReferencesAll name fun r hr => h r (List.mem_append_right _ hr)]

end

end Expr

end SheetPress
