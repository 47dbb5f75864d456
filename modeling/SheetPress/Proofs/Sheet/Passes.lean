import Mathlib
import SheetPress.Proofs.Sheet.CachedValues

/-!
# Passes of a recalculation

A pass changes the values of formula cells and nothing else, and each value that it writes is settled
by the cells that the formula covers.  So two workbooks that differ in those values alone come to
agree, from the formula cells that depend on no other upwards.

* `Workbook.recalculatePasses_eq_iterate` — stopping early makes no difference.
* `Workbook.settled_iterate` — after `k` passes, formula cells of height below `k` hold the same
  values, whatever they held before.
* `Workbook.isSolved_iterate` — where nothing depends on itself, as many passes as there are formula
  cells reach a solution.
* `Workbook.IsSolved.unique` — there is no other solution.
-/

namespace SheetPress

namespace Workbook

variable {b b' : Workbook}

/-- Every formula cell holds the value that its formula has in the workbook. -/
def IsSolved (b : Workbook) : Prop :=
  ∀ sheet ∈ b.sheets, ∀ place cell formula, sheet.cell? place = some cell →
    cell.formula = some formula → cell.value = formulaValue (b.scopeOf sheet) formula

/-- The change test of a pass tells the value of every formula cell from its new one, unless they
are equal. -/
def TellsApart (b : Workbook) : Prop :=
  ∀ sheet ∈ b.sheets, ∀ place cell formula, sheet.cell? place = some cell →
    cell.formula = some formula →
      cell.value.agrees (formulaValue (b.scopeOf sheet) formula) = true →
        cell.value = formulaValue (b.scopeOf sheet) formula

theorem IsSolved.tellsApart (h : b.IsSolved) : b.TellsApart :=
  fun sheet hsheet place cell formula hcell hformula _ =>
    h sheet hsheet place cell formula hcell hformula

/-! ## One pass -/

theorem getElem?_recalculateOnce {i : Nat} {sheet : Worksheet} (h : b.sheets[i]? = some sheet) :
    b.recalculateOnce.sheets[i]? = some
      { sheet with grid := sheet.grid.mapCells (Cell.recalculate (b.scopeOf sheet)) } := by
  rw [recalculateOnce, List.getElem?_map, h, Option.map_some]

theorem cellAt?_recalculateOnce {p : CellAddress} {sheet : Worksheet}
    (h : b.sheets[p.sheet]? = some sheet) :
    b.recalculateOnce.cellAt? p = (b.cellAt? p).map (Cell.recalculate (b.scopeOf sheet)) := by
  rw [cellAt?_eq (getElem?_recalculateOnce h), cellAt?_eq h]
  exact Grid.get?_mapCells ..

/-- A pass changes nothing but the values of formula cells. -/
theorem withoutCached_recalculateOnce (b : Workbook) :
    b.recalculateOnce.withoutCached = b.withoutCached := by
  unfold recalculateOnce withoutCached
  dsimp only
  rw [List.map_map]
  congr 1
  refine List.map_congr_left fun sheet _ => ?_
  unfold Worksheet.withoutCached
  dsimp only [Function.comp_apply]
  congr 1
  refine Grid.ext_get? rfl rfl fun place => ?_
  rw [Grid.get?_mapCells, Grid.get?_mapCells, Grid.get?_mapCells, Option.map_map]
  exact congrArg (fun f => (sheet.grid.get? place).map f)
    (funext (Cell.withoutCached_recalculate _))

theorem recalculateOnce_of_not_isStale (h : b.isStale = false) : b.recalculateOnce = b := by
  refine eq_of_withoutCached_eq (withoutCached_recalculateOnce b) fun p hp => ?_
  obtain ⟨cell, hcell, -⟩ := holdsFormula_withoutCached.1
    (withoutCached_recalculateOnce b ▸ holdsFormula_withoutCached.2 hp)
  obtain ⟨sheet, hsheet, hget⟩ := exists_of_cellAt?_eq_some hcell
  rw [cellAt?_recalculateOnce hsheet, hcell, Option.map_some]
  refine congrArg some (Cell.recalculate_of_not_isStale ?_)
  simp only [isStale, List.any_eq_false] at h
  have hstale := h sheet (List.mem_of_getElem? hsheet)
  simp only [Bool.not_eq_true, List.any_eq_false] at hstale
  simpa using hstale (p.place, cell) (Grid.mem_toList.2 hget)

/-- A pass leaves a solution as it is. -/
theorem IsSolved.recalculateOnce_eq (h : b.IsSolved) : b.recalculateOnce = b := by
  refine eq_of_withoutCached_eq (withoutCached_recalculateOnce b) fun p hp => ?_
  obtain ⟨cell, hcell, hformula⟩ := holdsFormula_withoutCached.1
    (withoutCached_recalculateOnce b ▸ holdsFormula_withoutCached.2 hp)
  obtain ⟨sheet, hsheet, hget⟩ := exists_of_cellAt?_eq_some hcell
  obtain ⟨formula, hformula⟩ := Option.isSome_iff_exists.1 hformula
  have hvalue := h sheet (List.mem_of_getElem? hsheet) p.place cell formula hget hformula
  rw [cellAt?_recalculateOnce hsheet, hcell, Option.map_some,
    Cell.recalculate_of_formula_eq_some hformula fun _ => hvalue, ← hvalue]

/-- A workbook that a pass leaves as it is is solved. -/
theorem isSolved_of_recalculateOnce_eq (happart : b.TellsApart) (h : b.recalculateOnce = b) :
    b.IsSolved := by
  intro sheet hsheet place cell formula hcell hformula
  obtain ⟨i, hi⟩ := List.getElem?_of_mem hsheet
  have hget : b.cellAt? ⟨i, place⟩ = some cell := (cellAt?_eq hi).trans hcell
  have hnew := cellAt?_recalculateOnce (p := ⟨i, place⟩) hi
  rw [h, hget, Option.map_some, Cell.recalculate_of_formula_eq_some hformula
    (happart sheet hsheet place cell formula hcell hformula), Option.some.injEq] at hnew
  exact congrArg Cell.value hnew

/-! ## Passes settle values from below -/

/-- Two workbooks hold the same cells at the formula cells of height below `k`. -/
def SettledBelow (k : Nat) (b b' : Workbook) : Prop :=
  ∀ p, b.HoldsFormula p → b.height p < k → b.cellAt? p = b'.cellAt? p

/-- A pass settles the formula cells of the next height. -/
theorem SettledBelow.recalculateOnce {k : Nat} (hsettled : SettledBelow k b b')
    (h : b.withoutCached = b'.withoutCached) (hacyclic : b.Acyclic) (happart : b.TellsApart)
    (happart' : b'.TellsApart) : SettledBelow (k + 1) b.recalculateOnce b'.recalculateOnce := by
  intro p hp hheight
  rw [height_eq (withoutCached_recalculateOnce b)] at hheight
  obtain ⟨cell, hcell, hformula⟩ := (holdsFormula_iff (withoutCached_recalculateOnce b)).1 hp
  obtain ⟨formula, hformula⟩ := Option.isSome_iff_exists.1 hformula
  obtain ⟨sheet, hsheet, hget⟩ := exists_of_cellAt?_eq_some hcell
  have hcached := map_cellAt?_eq h p
  rw [hcell, Option.map_some, eq_comm, Option.map_eq_some_iff] at hcached
  obtain ⟨cell', hcell', heq⟩ := hcached
  obtain ⟨sheet', hsheet', hget'⟩ := exists_of_cellAt?_eq_some hcell'
  have hformula' : cell'.formula = some formula := by
    rw [← Cell.formula_withoutCached, heq, Cell.formula_withoutCached, hformula]
  rw [Cell.withoutCached_of_formula_eq_some hformula,
    Cell.withoutCached_of_formula_eq_some hformula'] at heq
  have hvalue : formulaValue (b.scopeOf sheet) formula = formulaValue (b'.scopeOf sheet') formula := by
    refine formulaValue_congr (sheetNames_eq h) hsheet hsheet' fun q hq => ?_
    by_cases hq' : b.HoldsFormula q
    · have hlt := height_lt_of_dependsOn hacyclic ⟨hq', cell, formula, hcell, hformula, hq⟩
      exact hsettled q hq' (by omega)
    · exact cellAt?_eq_of_not_holdsFormula h hq'
  rw [cellAt?_recalculateOnce hsheet, cellAt?_recalculateOnce hsheet', hcell, hcell',
    Option.map_some, Option.map_some,
    Cell.recalculate_of_formula_eq_some hformula
      (happart sheet (List.mem_of_getElem? hsheet) p.place cell formula hget hformula),
    Cell.recalculate_of_formula_eq_some hformula'
      (happart' sheet' (List.mem_of_getElem? hsheet') p.place cell' formula hget' hformula'),
    hvalue]
  cases cell
  cases cell'
  obtain ⟨rfl, -, rfl⟩ := Cell.mk.inj heq
  rfl

theorem withoutCached_iterate (k : Nat) (b : Workbook) :
    (recalculateOnce^[k] b).withoutCached = b.withoutCached := by
  induction k with
  | zero => rfl
  | succ k ih => rw [Function.iterate_succ_apply', withoutCached_recalculateOnce, ih]

/-- After `k` passes, formula cells of height below `k` hold the same values, whatever they held
before. -/
theorem settled_iterate {k : Nat} (h : b.withoutCached = b'.withoutCached) (hacyclic : b.Acyclic)
    (happart : ∀ j < k, (recalculateOnce^[j] b).TellsApart)
    (happart' : ∀ j < k, (recalculateOnce^[j] b').TellsApart) :
    SettledBelow k (recalculateOnce^[k] b) (recalculateOnce^[k] b') := by
  induction k with
  | zero => exact fun p _ hp => absurd hp (Nat.not_lt_zero _)
  | succ k ih =>
    rw [Function.iterate_succ_apply', Function.iterate_succ_apply']
    refine (ih (fun j hj => happart j (by omega)) fun j hj => happart' j (by omega)).recalculateOnce
      ?_ ?_ (happart k (by omega)) (happart' k (by omega))
    · rw [withoutCached_iterate, withoutCached_iterate, h]
    · exact (acyclic_iff (withoutCached_iterate k b)).2 hacyclic

/-- Heights are below the number of formula cells, so workbooks settled up to it are equal. -/
theorem SettledBelow.eq {n : Nat} (h : SettledBelow n b b') (hn : b.formulaCount ≤ n)
    (hcached : b.withoutCached = b'.withoutCached) (hacyclic : b.Acyclic) : b = b' :=
  eq_of_withoutCached_eq hcached fun p hp =>
    h p hp ((height_lt_formulaCount hacyclic hp).trans_le hn)

/-! ## Solutions -/

/-- There is at most one solution. -/
theorem IsSolved.unique (hb : b.IsSolved) (hb' : b'.IsSolved)
    (h : b.withoutCached = b'.withoutCached) (hacyclic : b.Acyclic) : b = b' := by
  have hfixed : ∀ j, recalculateOnce^[j] b = b := Function.iterate_fixed hb.recalculateOnce_eq
  have hfixed' : ∀ j, recalculateOnce^[j] b' = b' := Function.iterate_fixed hb'.recalculateOnce_eq
  have hsettled := settled_iterate (k := b.formulaCount) h hacyclic
    (fun j _ => (hfixed j).symm ▸ hb.tellsApart) fun j _ => (hfixed' j).symm ▸ hb'.tellsApart
  rw [hfixed, hfixed'] at hsettled
  exact hsettled.eq le_rfl h hacyclic

/-- As many passes as there are formula cells reach a solution. -/
theorem isSolved_iterate (hacyclic : b.Acyclic)
    (happart : ∀ j ≤ b.formulaCount, (recalculateOnce^[j] b).TellsApart) :
    (recalculateOnce^[b.formulaCount] b).IsSolved := by
  refine isSolved_of_recalculateOnce_eq (happart _ le_rfl) ?_
  -- the passes from `b` and those from its first pass settle to the same values
  have hcached := withoutCached_recalculateOnce b
  have hsettled := settled_iterate (k := b.formulaCount) hcached
    ((acyclic_iff hcached).2 hacyclic)
    (fun j hj => (Function.iterate_succ_apply recalculateOnce j b) ▸ happart (j + 1) hj)
    (fun j hj => happart j hj.le)
  rw [← Function.iterate_succ_apply, Function.iterate_succ_apply'] at hsettled
  refine hsettled.eq ?_ ?_ ?_
  · rw [formulaCount_eq (withoutCached_recalculateOnce _),
      formulaCount_eq (withoutCached_iterate _ b)]
  · rw [withoutCached_recalculateOnce]
  · rwa [acyclic_iff (withoutCached_recalculateOnce _), acyclic_iff (withoutCached_iterate _ b)]

/-- Stopping when nothing would change makes no difference. -/
theorem recalculatePasses_eq_iterate (k : Nat) (b : Workbook) :
    recalculatePasses k b = recalculateOnce^[k] b := by
  induction k generalizing b with
  | zero => rfl
  | succ k ih =>
    rw [recalculatePasses, Function.iterate_succ_apply]
    split
    · exact ih _
    · next hstale =>
      have hfixed := recalculateOnce_of_not_isStale (Bool.eq_false_of_not_eq_true hstale)
      rw [hfixed, Function.iterate_fixed hfixed]

end Workbook

end SheetPress
