import Mathlib
import SheetPress.Proofs.Checked.Templates
import SheetPress.Proofs.Template.Grouping

/-!
# Subtotals in checked arithmetic

Groups are appended to the records that were written already, so that the rows of a summary are
positions in that list: the length of the list before the group, and one less than its length behind
it.  Positions in lists may be larger than rows and columns can; how large, is a parameter `size`.

* `TablePlan.WithinLimits.checkedSubtotals_eq` — reading subtotal rows.
* `checkedApplySubtotals_eq` — grouping, as long as the rows of the finished table can be counted.
-/

namespace SheetPress

/-! ## Reading subtotal rows -/

/-- What a subtotal row asks for. -/
def DirectiveRow.checkedSubtotal? (labels : DirectiveLabels) (fields d : DirectiveRow) :
    Checked (Option Subtotal) := do
  let marked := (d.cells.drop 1).findIdx? fun text => trimText text == labels.groupMarker
  let group? ← marked.mapM fun i => plus i 1
  let sum? := d.places.findSome? fun col =>
    (labels.subtotalSpec? (d.text col)).map fun spec => (col, spec)
  match group?, sum? with
  | some group, some (sum, spec) => do
    let sumColumn ← checkedColumnName (← minus (asIndex sum) 1)
    return some {
      groupField := trimText (fields.text group)
      sumField := trimText (fields.text sum)
      sumColumn, spec }
  | _, _ => pure none

/-- What the subtotal rows of a plan ask for. -/
def NumberedPlan.checkedSubtotals (labels : DirectiveLabels) (plan : NumberedPlan) :
    Checked (List Subtotal) :=
  let directives := plan.directives.map (·.row)
  match directives.filter (·.kind == .dataField) with
  | [] => pure []
  | fields :: _ => do
    let found ← (directives.filter (·.kind == .subtotal)).mapM
      (DirectiveRow.checkedSubtotal? labels fields)
    return found.filterMap id

section Reading

variable {labels : DirectiveLabels} {d : DirectiveRow}

/-- The columns of a row are found by their position behind the first one. -/
theorem DirectiveRow.find?_places (d : DirectiveRow) (p : String → Bool) :
    d.places.find? (p <| d.text ·) = ((d.cells.drop 1).findIdx? p).map (· + 1) := by
  have htext {i : Nat} (hi : i < (d.cells.drop 1).length) :
      d.text (i + 1) = (d.cells.drop 1)[i] := by
    have hi' : i + 1 < d.cells.length := by
      rw [List.length_drop] at hi
      omega
    rw [text, List.getElem?_eq_getElem hi', Option.getD_some, List.getElem_drop]
    congr 1
    exact Nat.add_comm i 1
  cases hfind : (d.cells.drop 1).findIdx? p with
  | none =>
    refine List.find?_range'_eq_none.2 fun col hpos hcol => ?_
    obtain ⟨i, rfl⟩ := Nat.exists_eq_add_of_le' hpos
    have hi : i < (d.cells.drop 1).length := by
      rw [List.length_drop]
      omega
    rw [htext hi, List.findIdx?_eq_none_iff.1 hfind _ (List.getElem_mem hi), Bool.not_false]
  | some i =>
    obtain ⟨hi, hp, hbefore⟩ := List.findIdx?_eq_some_iff_getElem.1 hfind
    refine List.find?_range'_eq_some.2 ⟨by rwa [htext hi], List.mem_range'_1.2 ?_, ?_⟩
    · have hlength : (d.cells.drop 1).length = d.cells.length - 1 := List.length_drop
      dsimp only
      omega
    · intro col hpos hcol
      obtain ⟨j, rfl⟩ := Nat.exists_eq_add_of_le' hpos
      have hj : j < i := Nat.lt_of_succ_lt_succ hcol
      rw [htext (hj.trans hi)]
      simpa using hbefore j hj

theorem DirectiveRow.checkedSubtotal?_eq (fields : DirectiveRow)
    (hcells : d.cells.length ≤ maxColumns) :
    checkedSubtotal? labels fields d = pure (subtotal? labels fields d) := by
  have hlimit : maxColumns < indexLimit := by decide
  have hmarked (p : String → Bool) : (((d.cells.drop 1).findIdx? p).mapM fun i => plus i 1) =
      pure (d.places.find? (p <| d.text ·)) := by
    rw [d.find?_places]
    refine mapM_option_eq_pure fun i hfind => ?_
    obtain ⟨hi, -⟩ := List.findIdx?_eq_some_iff_getElem.1 hfind
    rw [List.length_drop] at hi
    exact plus_eq (by omega)
  rw [checkedSubtotal?, hmarked, pure_bind, subtotal?]
  dsimp only
  cases d.places.find? fun col => trimText (d.text col) == labels.groupMarker with
  | none => rfl
  | some group =>
    cases hsum : d.places.findSome? fun col =>
        (labels.subtotalSpec? (d.text col)).map fun spec => (col, spec) with
    | none => rfl
    | some entry =>
      obtain ⟨col, hcol, hspec⟩ := List.exists_of_findSome?_eq_some hsum
      obtain ⟨spec, -, rfl⟩ := Option.map_eq_some_iff.1 hspec
      obtain ⟨hpos, hlast⟩ := List.mem_range'_1.1 hcol
      dsimp only
      rw [asIndex_eq (by omega), minus_eq hpos, pure_bind, checkedColumnName_eq, pure_bind]
      rfl

/-- The subtotal rows of a plan are read without stopping. -/
theorem TablePlan.WithinLimits.checkedSubtotals_eq {plan : TablePlan} (h : plan.WithinLimits) :
    plan.numbered.checkedSubtotals labels = pure (plan.subtotals labels) := by
  have hdirectives : plan.numbered.directives.map (·.row) = plan.directives := by
    rw [TablePlan.numbered, List.map_map]
    exact List.map_id _
  rw [NumberedPlan.checkedSubtotals, hdirectives, TablePlan.subtotals, TablePlan.directivesOf,
    TablePlan.directivesOf]
  cases plan.directives.filter (·.kind == .dataField) with
  | nil => rfl
  | cons fields _ =>
    dsimp only
    rw [mapM_eq_pure fun d hmem => DirectiveRow.checkedSubtotal?_eq fields
      (h.cells d (List.mem_filter.1 hmem).1), pure_bind, List.filterMap_map]
    rfl

end Reading

/-! ## Grouping -/

namespace Subtotal

/-- The rows of groups behind some that were written already, each group followed by its summary.
The first row that was written lands on row `start`, counted from 1. -/
def checkedGroupRows (size : Nat) (s : Subtotal) (start : Nat) (output : List Record) :
    List (String × List Record) → Checked (List Record)
  | [] => pure output
  | (key, members) :: rest => do
    let first := output.length
    let output := output ++ numberSamples members
    let last ← minus output.length 1
    let summary := s.summary (key ++ " " ++ s.spec.groupSuffix) (← plusBelow size start first)
      (← plusBelow size start last)
    checkedGroupRows size s start (output ++ [summary]) rest

/-- How many rows some groups take with their summaries and the one over them all. -/
def checkedCapacity (size : Nat) (groups : List (String × List Record)) : Checked Nat := do
  let members ← groups.foldlM (fun total group => plusBelow size total group.2.length) 0
  plusBelow size (← plusBelow size groups.length members) 1

/-- Groups records and adds the summaries. -/
def checkedApply (size : Nat) (s : Subtotal) (start : Nat) (records : List Record) :
    Checked (List Record) :=
  if records.isEmpty then pure []
  else do
    let groups := groupsOf s.groupField records
    let _ ← checkedCapacity size groups
    let output ← s.checkedGroupRows size start [] groups
    let last ← minus output.length 1
    return output ++ [s.summary s.spec.totalLabel (← plusBelow size start 0)
      (← plusBelow size start last)]

end Subtotal

/-- Applies subtotals one after another. -/
def checkedApplySubtotals (size : Nat) (subtotals : List Subtotal) (start : Nat)
    (records : List Record) : Checked (List Record) :=
  subtotals.foldlM (fun records s => s.checkedApply size start records) records

section Grouping

variable {size start : Nat} {records : List Record}

/-- The rows of groups are counted without stopping as long as the last of them can be counted. -/
theorem Subtotal.checkedGroupRows_eq (s : Subtotal) {groups : List (String × List Record)}
    (hmembers : ∀ group ∈ groups, group.2 ≠ []) {output : List Record}
    (hsize : start + output.length + rowsOf groups < size) :
    s.checkedGroupRows size start output groups =
      pure (output ++ s.groupRows (start + output.length) groups) := by
  -- rows are positions in the output, so that the output varies with the groups that are left
  induction groups generalizing output with
  | nil => rw [checkedGroupRows, groupRows, List.append_nil]
  | cons group groups ih =>
    obtain ⟨key, members⟩ := group
    obtain ⟨hne, hmembers⟩ := List.forall_mem_cons.1 hmembers
    have hpos := List.length_pos_of_ne_nil hne
    rw [rowsOf_cons] at hsize
    dsimp only at hpos hsize
    have hlength : (output ++ numberSamples members).length = output.length + members.length := by
      rw [List.length_append, length_numberSamples]
    rw [checkedGroupRows]
    dsimp only
    rw [hlength, minus_eq (by omega), pure_bind, plusBelow_eq (by omega), pure_bind,
      plusBelow_eq (by omega), pure_bind, ih hmembers, groupRows_cons]
    · have hlast : start + (output.length + members.length - 1) =
          start + output.length + members.length - 1 := by omega
      have hrow : start + (output.length + members.length + 1) =
          start + output.length + members.length + 1 := by omega
      rw [List.length_append, hlength, List.length_singleton, hlast, hrow, List.append_assoc,
        List.append_assoc, List.singleton_append]
    · rw [List.length_append, hlength, List.length_singleton]
      omega

theorem rowsOf_eq (groups : List (String × List Record)) :
    rowsOf groups = groups.length + (groups.map (·.2.length)).sum := by
  rw [rowsOf, List.sum_map_add, List.map_const', List.sum_replicate, smul_eq_mul, mul_one,
    Nat.add_comm]

theorem Subtotal.checkedCapacity_eq {groups : List (String × List Record)}
    (hsize : rowsOf groups + 1 < size) : checkedCapacity size groups = pure (rowsOf groups + 1) := by
  have hfold : ∀ (groups : List (String × List Record)) (total : Nat),
      total + rowsOf groups < size →
      groups.foldlM (fun total group => plusBelow size total group.2.length) total =
        pure (total + (groups.map (·.2.length)).sum) := by
    intro groups
    induction groups with
    | nil => exact fun total _ => rfl
    | cons group groups ih =>
      intro total htotal
      rw [rowsOf_cons] at htotal
      rw [List.foldlM_cons, plusBelow_eq (by omega), pure_bind, ih _ (by omega), List.map_cons,
        List.sum_cons, Nat.add_assoc]
  have hrows := rowsOf_eq groups
  rw [checkedCapacity, hfold groups 0 (by omega), pure_bind, plusBelow_eq (by omega), pure_bind,
    plusBelow_eq (by omega), Nat.zero_add, ← hrows]

/-- Records are grouped without stopping as long as the last row can be counted. -/
theorem Subtotal.checkedApply_eq (s : Subtotal)
    (hsize : start + (s.apply start records).length < size) :
    s.checkedApply size start records = pure (s.apply start records) := by
  by_cases hne : records = []
  · rw [hne]
    rfl
  · have hpos := rowsOf_groupsOf_pos s.groupField hne
    rw [s.length_apply start hne] at hsize
    rw [checkedApply, if_neg (by simpa using hne), s.apply_eq start hne]
    dsimp only
    rw [checkedCapacity_eq (by omega), pure_bind,
      s.checkedGroupRows_eq (fun _ hgroup => ne_nil_of_mem_groupsOf hgroup) (by simp; omega),
      pure_bind, List.nil_append, List.length_nil, Nat.add_zero, length_groupRows,
      minus_eq hpos, pure_bind, plusBelow_eq (by omega), pure_bind, plusBelow_eq (by omega),
      pure_bind, Nat.add_zero, Nat.add_sub_assoc hpos]

/-- Summaries make a table longer. -/
theorem Subtotal.length_le_apply (s : Subtotal) (start : Nat) (records : List Record) :
    records.length ≤ (s.apply start records).length := by
  by_cases hne : records = []
  · rw [hne]
    exact Nat.zero_le _
  · have hmembers := (perm_groupsOf s.groupField records).length_eq
    rw [List.length_flatMap] at hmembers
    rw [s.length_apply start hne, rowsOf_eq, hmembers]
    omega

theorem length_le_applySubtotals (subtotals : List Subtotal) (start : Nat) (records : List Record) :
    records.length ≤ (applySubtotals subtotals start records).length := by
  induction subtotals generalizing records with
  | nil => exact le_rfl
  | cons s subtotals ih => exact (s.length_le_apply start records).trans (ih _)

/-- Subtotals are applied without stopping as long as the last row of the table can be counted. -/
theorem checkedApplySubtotals_eq {subtotals : List Subtotal}
    (hsize : start + (applySubtotals subtotals start records).length < size) :
    checkedApplySubtotals size subtotals start records =
      pure (applySubtotals subtotals start records) := by
  induction subtotals generalizing records with
  | nil => rfl
  | cons s subtotals ih =>
    -- the table only grows, so that the rows of each stage are among those of the last one
    have hlength := length_le_applySubtotals subtotals start (s.apply start records)
    have hrest := ih hsize
    have hfold : applySubtotals (s :: subtotals) start records =
        applySubtotals subtotals start (s.apply start records) := rfl
    rw [hfold] at hsize
    rw [checkedApplySubtotals, List.foldlM_cons, s.checkedApply_eq (by omega), pure_bind]
    exact hrest

/-! ## Room for the table -/

/-- Whether some records fit on the sheet from a row on, which is counted from 1. -/
def checkedTableFits (size dataRow count : Nat) : Checked Bool :=
  if count = 0 then pure true
  else do
    let last ← minus (← plusBelow size dataRow count) 1
    return last ≤ maxRows

theorem checkedTableFits_eq {firstRow count : Nat} (hsize : firstRow + 1 + count < size) :
    checkedTableFits size (firstRow + 1) count = pure (tableFits firstRow count) := by
  unfold checkedTableFits tableFits
  split
  · next hcount => rw [hcount]; rfl
  · next hcount =>
    rw [plusBelow_eq hsize, pure_bind, minus_eq (by omega), pure_bind, beq_false_of_ne hcount,
      Bool.false_or]
    refine congrArg pure (decide_eq_decide.2 ?_)
    omega

end Grouping

end SheetPress
