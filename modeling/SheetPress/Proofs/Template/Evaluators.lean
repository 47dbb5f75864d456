import SheetPress.Proofs.Sheet.Grid
import SheetPress.Proofs.Template.Lending
import SheetPress.Template.Expression

/-!
# Evaluators that are used again

An evaluator writes the fields of a record to its scratch grid and clears them after use. The next use
finds the grid as it was at first, so the outcome does not depend on what the evaluator did before.

* `Grid.IsScratch` — a grid with cells in its first column only, and what filling and clearing keep
  of it; `clearScratch_fillScratch` puts both together.
* `ScratchEvaluator.IsBuilt` — an evaluator that was made and used any number of times.
* `EvaluatorStep` — what can happen to a pool of such evaluators, uses included.
* `Lending.evaluates_afresh` — every use gives what an evaluator of its own would give.
-/

namespace SheetPress

/-! ## Scratch grids -/

/-- A grid with cells in its first column only, whose bounds are 0 once it is empty. -/
structure Grid.IsScratch (g : Grid) : Prop where
  maxCol : g.maxCol = 0
  inColumn : ∀ place cell, g.get? place = some cell → place.col = 0
  eq_empty : g.cells = ∅ → g = {}

namespace Grid

variable {g : Grid}

theorem tighten_of_cells_eq_empty (h : g.cells = ∅) : g.tighten = {} := by
  have htoList : g.toList = [] := by
    rw [List.eq_nil_iff_forall_not_mem]
    rintro ⟨place, cell⟩ hmem
    rw [mem_toList, cells_eq_empty_iff.1 h] at hmem
    cases hmem
  rw [tighten, htoList, h]
  rfl

/-- Cells in the first column do not need more columns. -/
theorem maxCol_tighten_eq_zero (h : ∀ place cell, g.get? place = some cell → place.col = 0) :
    g.tighten.maxCol = 0 := by
  have hfold (entries : List (Coord × Cell)) (hcols : ∀ entry ∈ entries, entry.1.col = 0) :
      entries.foldl (fun m entry => max m entry.1.col) 0 = 0 := by
    induction entries with
    | nil => rfl
    | cons entry entries ih =>
      obtain ⟨hcol, hcols⟩ := List.forall_mem_cons.1 hcols
      simp only [List.foldl_cons, hcol]
      exact ih hcols
  exact hfold g.toList fun entry hmem => h entry.1 entry.2 (mem_toList.1 hmem)

theorem isScratch_empty : ({} : Grid).IsScratch where
  maxCol := rfl
  inColumn place cell h := by
    rw [get?_empty] at h
    cases h
  eq_empty _ := rfl

theorem IsScratch.set (h : g.IsScratch) (n : Nat) (cell : Cell) :
    (g.set (scratchPlace n) cell).IsScratch where
  maxCol := by
    rw [Grid.set, h.maxCol]
    rfl
  inColumn place stored hget := by
    rw [get?_set] at hget
    by_cases hplace : place = scratchPlace n
    · rw [hplace]
      rfl
    · rw [if_neg hplace] at hget
      exact h.inColumn place stored hget
  eq_empty hempty := by
    have hget := cells_eq_empty_iff.1 hempty (scratchPlace n)
    rw [get?_set, if_pos rfl] at hget
    cases hget

theorem IsScratch.erase (h : g.IsScratch) (n : Nat) : (g.erase (scratchPlace n)).IsScratch := by
  -- The first column is the last one in use, so the bounds are recomputed.
  have herase : g.erase (scratchPlace n) =
      tighten { g with cells := g.cells.erase (scratchPlace n) } :=
    if_pos (.inr h.maxCol.symm)
  have hcolumn : ∀ place cell, (g.erase (scratchPlace n)).get? place = some cell →
      place.col = 0 := by
    intro place cell hget
    rw [get?_erase] at hget
    split at hget
    · cases hget
    · exact h.inColumn place cell hget
  rw [herase] at hcolumn ⊢
  exact ⟨maxCol_tighten_eq_zero hcolumn, hcolumn, tighten_of_cells_eq_empty⟩

end Grid

/-! ## Filling and clearing -/

variable {g : Grid}

theorem isScratch_fillScratch (values : List FieldValue) : (fillScratch {} values).IsScratch := by
  have hfold (entries : List (Nat × FieldValue)) (g : Grid) (h : g.IsScratch) :
      (entries.foldl (fun g entry => g.set (scratchPlace entry.1) (.ofValue entry.2.toCell))
        g).IsScratch := by
    induction entries generalizing g with
    | nil => exact h
    | cons entry entries ih => exact ih _ (h.set entry.1 _)
  exact hfold _ {} Grid.isScratch_empty

/-- A value is in the cell with its number. -/
theorem get?_fillScratch (values : List FieldValue) (n : Nat) :
    (fillScratch {} values).get? (scratchPlace n) = values[n]?.map fun v => .ofValue v.toCell := by
  induction values using List.reverseRecOn with
  | nil => exact Grid.get?_empty _
  | append_singleton values last ih =>
    have hfill : fillScratch {} (values ++ [last]) =
        (fillScratch {} values).set (scratchPlace values.length) (.ofValue last.toCell) := by
      rw [fillScratch, List.mapIdx_concat, List.foldl_append]
      rfl
    have hplace : scratchPlace n = scratchPlace values.length ↔ n = values.length := by
      simp [scratchPlace]
    rw [hfill, Grid.get?_set, ih]
    by_cases hn : n = values.length
    · rw [if_pos (hplace.2 hn), hn, List.getElem?_concat_length]
      rfl
    · rw [if_neg (fun h => hn (hplace.1 h))]
      by_cases hlt : n < values.length
      · rw [List.getElem?_append_left hlt]
      · rw [List.getElem?_eq_none (by omega), List.getElem?_eq_none (by simp; omega)]

/-- Values are in the first cells only. -/
theorem get?_fillScratch_of_le {values : List FieldValue} {place : Coord}
    (h : values.length ≤ place.row) : (fillScratch {} values).get? place = none := by
  refine Option.eq_none_iff_forall_ne_some.2 fun cell hget => ?_
  have hplace : place = scratchPlace place.row := by
    rw [scratchPlace, ← (isScratch_fillScratch values).inColumn place cell hget]
  rw [hplace, get?_fillScratch, List.getElem?_eq_none h] at hget
  cases hget

theorem clearScratch_succ (g : Grid) (count : Nat) :
    clearScratch g (count + 1) = (clearScratch g count).erase (scratchPlace count) := by
  rw [clearScratch, List.range_succ, List.foldl_append]
  rfl

theorem Grid.IsScratch.clearScratch (h : g.IsScratch) (count : Nat) :
    (clearScratch g count).IsScratch := by
  induction count with
  | zero => exact h
  | succ count ih =>
    rw [clearScratch_succ]
    exact ih.erase count

theorem get?_clearScratch_of_lt {count : Nat} {place : Coord} (hrow : place.row < count)
    (hcol : place.col = 0) : (clearScratch g count).get? place = none := by
  induction count with
  | zero => exact absurd hrow (Nat.not_lt_zero _)
  | succ count ih =>
    rw [clearScratch_succ, Grid.get?_erase]
    split
    · rfl
    · next hne =>
      have hother : place.row ≠ count := by
        intro hlast
        apply hne
        rw [← hlast, scratchPlace, ← hcol]
      exact ih (Nat.lt_of_le_of_ne (Nat.le_of_lt_succ hrow) hother)

theorem get?_clearScratch_eq_none {count : Nat} {place : Coord} (h : g.get? place = none) :
    (clearScratch g count).get? place = none := by
  induction count with
  | zero => exact h
  | succ count ih => rw [clearScratch_succ, Grid.get?_erase, ih, ite_self]

/-- Clearing as many cells as were filled, or more, leaves an empty grid. -/
theorem clearScratch_fillScratch {values : List FieldValue} {count : Nat}
    (h : values.length ≤ count) : clearScratch (fillScratch {} values) count = {} := by
  have hfilled := isScratch_fillScratch values
  refine (hfilled.clearScratch count).eq_empty (Grid.cells_eq_empty_iff.2 fun place => ?_)
  by_cases hcol : place.col = 0
  · by_cases hrow : place.row < count
    · exact get?_clearScratch_of_lt hrow hcol
    · refine get?_clearScratch_eq_none (get?_fillScratch_of_le ?_)
      exact h.trans (Nat.not_lt.1 hrow)
  · refine get?_clearScratch_eq_none (Option.eq_none_iff_forall_ne_some.2 fun cell hget => ?_)
    exact hcol (hfilled.inColumn place cell hget)

/-! ## Evaluators -/

theorem isPrefix_addNames (names words : List String) : names <+: addNames names words := by
  fun_induction addNames names words with
  | case1 names => exact List.prefix_rfl
  | case2 names word words _ ih => exact ih
  | case3 names word words _ ih => exact (List.prefix_append ..).trans ih

namespace ScratchEvaluator

/-- A use leaves the scratch grid empty, whether it succeeds or fails. -/
theorem evaluate_empty (expression : String) (record : Record) :
    (({} : ScratchEvaluator).evaluate expression record).2 = {} := by
  have hcount : (record.fields.toList.map (·.2)).length ≤ (boundNames expression record).length := by
    have hnames := (isPrefix_addNames (record.fields.toList.map (·.1)) (namesOf expression)).length_le
    rwa [List.length_map] at hnames ⊢
  exact congrArg ScratchEvaluator.mk (clearScratch_fillScratch hcount)

/-- An evaluator that was made, and used any number of times since. -/
inductive IsBuilt : ScratchEvaluator → Prop
  | new : IsBuilt {}
  | used {e : ScratchEvaluator} (h : IsBuilt e) (expression : String) (record : Record) :
    IsBuilt (e.evaluate expression record).2

/-- An evaluator between uses is like a new one. -/
theorem IsBuilt.eq_empty {e : ScratchEvaluator} (h : e.IsBuilt) : e = {} := by
  induction h with
  | new => rfl
  | used _ expression record ih =>
    rw [ih]
    exact evaluate_empty expression record

end ScratchEvaluator

/-! ## Pools of evaluators -/

/-- Something happens to a pool of evaluators: a step of the pool, which may adopt any evaluator that
was built, or a use of a lent evaluator, or a use of one that is borrowed for that. -/
inductive EvaluatorStep : Lending ScratchEvaluator → Lending ScratchEvaluator → Prop
  | pool {l l' : Lending ScratchEvaluator} (h : Lending.Step (fun _ e => e.IsBuilt) l l') :
    EvaluatorStep l l'
  | evaluate (l : Lending ScratchEvaluator) {position : Nat} {e : ScratchEvaluator}
    (h : l.lent[position]? = some e) (expression : String) (record : Record) :
    EvaluatorStep l { l with lent := l.lent.set position (e.evaluate expression record).2 }
  | use (l : Lending ScratchEvaluator) (now : Nat) (expression : String) (record : Record) :
    EvaluatorStep l { l with pool := (l.pool.use now (·.evaluate expression record)).2 }

namespace Lending

/-- All evaluators are new, or like new. -/
structure IsFresh (l : Lending ScratchEvaluator) : Prop where
  make_eq : ∀ n, l.pool.make n = {}
  eq_empty : ∀ e ∈ l.evaluators, e = {}

variable {l l' : Lending ScratchEvaluator}

theorem isFresh_start (config : PoolConfig) {make : Nat → ScratchEvaluator}
    (hmake : ∀ n, (make n).IsBuilt) (now : Nat) : (start config make now).IsFresh := by
  refine ⟨fun n => (hmake n).eq_empty, fun e hmem => ?_⟩
  obtain ⟨item, hitem, rfl⟩ : ∃ item ∈ (start config make now).pool.idle, item.evaluator = e := by
    simpa [evaluators, EvaluatorPool.evaluators, start] using hmem
  obtain ⟨n, -, rfl⟩ := List.mem_map.1 hitem
  exact (hmake n).eq_empty

theorem IsFresh.step (h : l.IsFresh) (hstep : Step (fun _ e => e.IsBuilt) l l') : l'.IsFresh := by
  refine ⟨?_, fun e hmem => ?_⟩
  · rw [hstep.frame.2.1]
    exact h.make_eq
  · obtain hsub | ⟨hsub, -⟩ | ⟨e', hbuilt, hsub⟩ := hstep.subperm_evaluators
    · exact h.eq_empty e (hsub.subset hmem)
    · obtain rfl | hold := List.mem_cons.1 (hsub.subset hmem)
      · exact h.make_eq _
      · exact h.eq_empty e hold
    · obtain rfl | hold := List.mem_cons.1 (hsub.subset hmem)
      · exact hbuilt.eq_empty
      · exact h.eq_empty e hold

/-- A use of a lent evaluator leaves it like new. -/
theorem IsFresh.evaluate (h : l.IsFresh) {e : ScratchEvaluator} (he : e = {}) (position : Nat)
    (expression : String) (record : Record) :
    IsFresh { l with lent := l.lent.set position (e.evaluate expression record).2 } := by
  refine ⟨h.make_eq, fun e' hmem => ?_⟩
  obtain hidle | hlent := List.mem_append.1 hmem
  · exact h.eq_empty e' (List.mem_append_left _ hidle)
  · obtain hold | rfl := List.mem_or_eq_of_mem_set hlent
    · exact h.eq_empty e' (List.mem_append_right _ hold)
    · rw [he]
      exact ScratchEvaluator.evaluate_empty expression record

theorem IsFresh.borrow_eq (h : l.IsFresh) : l.pool.borrow.1 = {} := by
  obtain ⟨rest, last, hidle, hborrow⟩ | ⟨-, hborrow⟩ := l.pool.borrow_cases
  · rw [hborrow]
    refine h.eq_empty _ (List.mem_append_left _ (List.mem_map_of_mem ?_))
    rw [hidle]
    exact List.mem_append_right _ (List.mem_singleton_self last)
  · rw [hborrow]
    exact h.make_eq _

/-- Borrowing an evaluator for one use is borrowing it, using it and returning it. -/
theorem use_eq {ε α : Type} (l : Lending ε) (now : Nat) (f : ε → α × ε) :
    { l with pool := (l.pool.use now f).2 } =
      ({ l.borrow.2 with
        lent := l.borrow.2.lent.set l.lent.length (f l.borrow.1).2 } : Lending ε).giveBack now
          l.lent.length := by
  have hreturned : l.lent = (l.lent ++ [(f l.borrow.1).2]).eraseIdx l.lent.length := by
    rw [List.eraseIdx_append_of_length_le (Nat.le_refl _), Nat.sub_self]
    exact (List.append_nil _).symm
  simpa [giveBack, borrow, EvaluatorPool.use] using hreturned

theorem IsFresh.evaluatorStep (h : l.IsFresh) (hstep : EvaluatorStep l l') : l'.IsFresh := by
  cases hstep with
  | pool hstep => exact h.step hstep
  | @evaluate position e hlent expression record =>
    have hmem : e ∈ l.evaluators := List.mem_append_right _ (List.mem_of_getElem? hlent)
    exact h.evaluate (h.eq_empty e hmem) position expression record
  | use now expression record =>
    have hborrowed : l.borrow.2.IsFresh := h.step (.borrow l)
    rw [use_eq]
    exact (hborrowed.evaluate h.borrow_eq l.lent.length expression record).step (.giveBack _ now _)

/-- Evaluators are borrowed, used, returned, adopted and swept, in any order. Whichever is used next,
lent or borrowed for that, gives what a new one would give, and the scratch grids of all of them are
empty. -/
theorem evaluates_afresh {config : PoolConfig} {make : Nat → ScratchEvaluator} {started : Nat}
    (hmake : ∀ n, (make n).IsBuilt)
    (h : Relation.ReflTransGen EvaluatorStep (start config make started) l) :
    (∀ expression record,
      (∀ e ∈ l.lent, (e.evaluate expression record).1 = evaluateExpression expression record) ∧
        ∀ now, (l.pool.use now (·.evaluate expression record)).1 =
          evaluateExpression expression record) ∧
      ∀ e ∈ l.pool.evaluators ++ l.lent,
        e.scratch.cells = ∅ ∧ e.scratch.maxRow = 0 ∧ e.scratch.maxCol = 0 := by
  have hfresh : l.IsFresh := by
    induction h with
    | refl => exact isFresh_start config hmake started
    | tail _ hstep ih => exact ih.evaluatorStep hstep
  refine ⟨fun expression record => ⟨fun e hmem => ?_, fun now => ?_⟩, fun e hmem => ?_⟩
  · rw [hfresh.eq_empty e (List.mem_append_right _ hmem)]
    rfl
  · have huse : (l.pool.use now (·.evaluate expression record)).1 =
        (l.pool.borrow.1.evaluate expression record).1 := rfl
    rw [huse, hfresh.borrow_eq]
    rfl
  · rw [hfresh.eq_empty e hmem]
    exact ⟨rfl, rfl, rfl⟩

/-- A record with two fields. -/
def pairRecord : Record :=
  (({} : Record).withField "first" (.text "a")).withField "second" (.text "b")

/-- Of two evaluators that were borrowed, the second one has failed on a formula without its end. -/
def failedLending : Lending ScratchEvaluator :=
  let borrowed := (start {} (fun _ => {}) 0).borrow.2.borrow.2
  { borrowed with lent := borrowed.lent.set 1 (({} : ScratchEvaluator).evaluate "=first&" pairRecord).2 }

theorem reachable_failedLending :
    Relation.ReflTransGen EvaluatorStep (start {} (fun _ => {}) 0) failedLending := by
  have hborrowed : Relation.ReflTransGen EvaluatorStep (start {} (fun _ => {}) 0)
      (start {} (fun _ => {}) 0).borrow.2.borrow.2 :=
    (Relation.ReflTransGen.single (.pool (.borrow _))).tail (.pool (.borrow _))
  exact hborrowed.tail (.evaluate _ (by rfl) "=first&" pairRecord)

/-- What stood in the second cell then is not read any more. -/
theorem evaluates_afresh_failedLending :
    (∀ n : Nat, ((fun _ => {}) n : ScratchEvaluator).IsBuilt) ∧ failedLending.lent.length = 2 ∧
      ∀ e ∈ failedLending.lent, (e.evaluate "=A2" {}).1 = evaluateExpression "=A2" {} := by
  have hmake (n : Nat) : ((fun _ => {}) n : ScratchEvaluator).IsBuilt := .new
  exact ⟨hmake, rfl, ((evaluates_afresh hmake reachable_failedLending).1 "=A2" {}).1⟩

end Lending

end SheetPress
