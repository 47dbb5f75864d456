import SheetPress.Proofs.Formula.Parsing
import SheetPress.Proofs.Sheet.Passes

/-!
# Recalculation reaches the solution

A recalculation of formula cells that do not depend on themselves ends with every formula cell at the
value of its formula.  The outcome does not depend on the values that the formula cells held before,
nor on the order in which a pass writes its results.

* `Workbook.cellAt?_recalculateIn` — results written one by one, in any order, give the same cells.
* `Workbook.recalculate_reaches_solution` — a recalculation ends at the only solution.
-/

namespace SheetPress

/-! ## In a given order -/

/-- A formula cell with its formula as it was read, if it is well formed. -/
structure Target where
  address : CellAddress
  expr : Option Expr

/-- A cell with a new value. A value that agrees with the old one leaves the old one in place. -/
def Cell.store (value : CellValue) (cell : Cell) : Cell :=
  if cell.value.agrees value then cell else { cell with value }

namespace Workbook

/-- The cell at an address as a target. -/
def target (b : Workbook) (p : CellAddress) : Target :=
  ⟨p, ((b.cellAt? p).bind (·.formula)).bind fun formula => (parseFormula formula).toOption⟩

/-- The new value of a target. -/
def targetValue (b : Workbook) (t : Target) : CellValue :=
  match t.expr, b.sheets[t.address.sheet]? with
  | some e, some sheet => (e.eval (b.scopeOf sheet)).toCell
  | _, _ => .error .malformed

/-- Writes one result. The truth value beside the workbook tells whether anything has changed. -/
def write (state : Workbook × Bool) (p : CellAddress) (value : CellValue) : Workbook × Bool :=
  ({ state.1 with sheets := state.1.sheets.modify p.sheet fun sheet =>
      { sheet with grid := sheet.grid.update p.place (Cell.store value) } },
    state.2 || !((state.1.cellAt? p).getD {}).value.agrees value)

/-- One pass: every target is evaluated first, then the results are written in order. -/
def passIn (targets : List Target) (b : Workbook) : Workbook × Bool :=
  (targets.map fun t => (t.address, b.targetValue t)).foldl
    (fun state result => write state result.1 result.2) (b, false)

/-- Passes until one changes nothing, at most a given number. -/
def passesIn (targets : List Target) : Nat → Workbook → Workbook
  | 0, b => b
  | passes + 1, b =>
    let pass := passIn targets b
    if pass.2 then passesIn targets passes pass.1 else pass.1

/-- Recalculates the formula cells of a list in its order. -/
def recalculateIn (order : List CellAddress) (b : Workbook) : Workbook :=
  passesIn (order.map b.target) (order.length + 1) b

/-! ## Writing results -/

/-- Two workbooks with the same sheet names and the same cells. -/
structure SameCells (b b' : Workbook) : Prop where
  sheetNames : b.sheetNames = b'.sheetNames
  cellAt? : ∀ p, b.cellAt? p = b'.cellAt? p

variable {b b' c : Workbook}

theorem SameCells.refl (b : Workbook) : SameCells b b := ⟨rfl, fun _ => rfl⟩

theorem getElem?_write (state : Workbook × Bool) (p : CellAddress) (value : CellValue) (i : Nat) :
    (write state p value).1.sheets[i]? =
      if p.sheet = i then
        state.1.sheets[i]?.map fun sheet =>
          { sheet with grid := sheet.grid.update p.place (Cell.store value) }
      else state.1.sheets[i]? := by
  unfold write
  dsimp only
  rw [List.getElem?_modify]
  by_cases hi : p.sheet = i
  · simp only [if_pos hi]
    rfl
  · simp only [if_neg hi]
    exact Option.map_id'

theorem sheetNames_write (state : Workbook × Bool) (p : CellAddress) (value : CellValue) :
    (write state p value).1.sheetNames = state.1.sheetNames := by
  refine List.ext_getElem? fun i => ?_
  rw [sheetNames, sheetNames, List.getElem?_map, List.getElem?_map, getElem?_write]
  split
  · rw [Option.map_map]
    rfl
  · rfl

theorem cellAt?_write {state : Workbook × Bool} {p : CellAddress} {cell : Cell}
    (hcell : state.1.cellAt? p = some cell) (value : CellValue) (q : CellAddress) :
    (write state p value).1.cellAt? q =
      if q = p then some (cell.store value) else state.1.cellAt? q := by
  obtain ⟨sheet, hsheet, hget⟩ := exists_of_cellAt?_eq_some hcell
  rw [Workbook.cellAt?, getElem?_write]
  by_cases hq : p.sheet = q.sheet
  · have hupdate : (sheet.grid.get? p.place).getD {} = cell := by
      rw [show sheet.grid.get? p.place = some cell from hget, Option.getD_some]
    rw [if_pos hq, cellAt?_eq (hq ▸ hsheet), ← hq, hsheet]
    show (sheet.grid.set p.place _).get? q.place = _
    rw [Grid.get?_set, hupdate]
    by_cases hplace : q.place = p.place
    · have heq : q = p := by
        cases p
        cases q
        exact congrArg₂ CellAddress.mk hq.symm hplace
      rw [if_pos hplace, if_pos heq]
    · rw [if_neg hplace, if_neg fun heq : q = p => hplace (congrArg CellAddress.place heq)]
      rfl
  · rw [if_neg hq, if_neg fun heq : q = p => hq (congrArg CellAddress.sheet heq).symm]
    rfl

/-- What writing a list of results does: to its addresses, and to the note of changes. -/
theorem foldl_write {order : List CellAddress} (f : CellAddress → CellValue) (hnodup : order.Nodup)
    (state : Workbook × Bool) (hstored : ∀ p ∈ order, (state.1.cellAt? p).isSome = true) :
    (order.foldl (fun state p => write state p (f p)) state).1.sheetNames = state.1.sheetNames ∧
    (∀ q, (order.foldl (fun state p => write state p (f p)) state).1.cellAt? q =
      if q ∈ order then (state.1.cellAt? q).map (Cell.store (f q)) else state.1.cellAt? q) ∧
    (order.foldl (fun state p => write state p (f p)) state).2 =
      (state.2 || order.any fun p => !((state.1.cellAt? p).getD {}).value.agrees (f p)) := by
  induction order generalizing state with
  | nil => exact ⟨rfl, fun q => rfl, by simp⟩
  | cons p order ih =>
    obtain ⟨hp, hnodup⟩ := List.nodup_cons.1 hnodup
    obtain ⟨cell, hcell⟩ := Option.isSome_iff_exists.1 (hstored p (List.mem_cons_self ..))
    have hwrite := cellAt?_write hcell (f p)
    have hother : ∀ q ∈ order, (write state p (f p)).1.cellAt? q = state.1.cellAt? q := by
      intro q hq
      rw [hwrite, if_neg (ne_of_mem_of_not_mem hq hp)]
    obtain ⟨hnames, hcells, hchanged⟩ := ih hnodup (write state p (f p)) fun q hq => by
      rw [hother q hq]
      exact hstored q (List.mem_cons_of_mem _ hq)
    refine ⟨hnames.trans (sheetNames_write state p (f p)), fun q => ?_, ?_⟩
    · rw [List.foldl_cons, hcells]
      by_cases hq : q ∈ order
      · rw [if_pos hq, if_pos (List.mem_cons_of_mem _ hq), hother q hq]
      · rw [if_neg hq, hwrite]
        by_cases heq : q = p
        · rw [if_pos heq, heq, if_pos (List.mem_cons_self ..), hcell, Option.map_some]
        · rw [if_neg heq, if_neg fun hmem => (List.mem_cons.1 hmem).elim heq hq]
    · rw [List.foldl_cons, hchanged, List.any_cons, ← Bool.or_assoc]
      congr 1
      rw [Bool.eq_iff_iff, List.any_eq_true, List.any_eq_true]
      refine exists_congr fun q => and_congr_right fun hq => ?_
      rw [hother q hq]

/-! ## A pass in any order -/

/-- A list names every formula cell of a workbook once. -/
structure Enumerates (order : List CellAddress) (b : Workbook) : Prop where
  nodup : order.Nodup
  mem : ∀ p, p ∈ order ↔ b.HoldsFormula p

theorem target_eq (h : b.withoutCached = b'.withoutCached) : b.target = b'.target := by
  funext p
  have hformula : ∀ b : Workbook, (b.cellAt? p).bind (·.formula) =
      ((b.cellAt? p).map Cell.withoutCached).bind (·.formula) := by
    intro b
    rw [Option.bind_map]
    exact congrArg _ (funext fun cell => (Cell.formula_withoutCached cell).symm)
  rw [target, target, hformula b, hformula b', map_cellAt?_eq h]

theorem targetValue_target (hc : SameCells c b) {p : CellAddress} {sheet : Worksheet} {cell : Cell}
    {formula : String} (hsheet : b.sheets[p.sheet]? = some sheet)
    (hcell : b.cellAt? p = some cell) (hformula : cell.formula = some formula) :
    c.targetValue (b.target p) = formulaValue (b.scopeOf sheet) formula := by
  obtain ⟨sheet', hsheet', -⟩ := exists_of_cellAt?_eq_some ((hc.cellAt? p).trans hcell)
  rw [← formulaValue_congr hc.sheetNames hsheet' hsheet fun q _ => hc.cellAt? q]
  unfold targetValue target formulaValue
  dsimp only
  rw [hcell, Option.bind_some, hformula, Option.bind_some, hsheet']
  cases parseFormula formula <;> rfl

theorem recalculate_eq_store {scope : Scope} {cell : Cell} {formula : String}
    (h : cell.formula = some formula) :
    cell.recalculate scope = cell.store (formulaValue scope formula) := by
  unfold Cell.recalculate Cell.store
  rw [h]

theorem isStale_iff : b.isStale = true ↔ ∃ (p : CellAddress) (sheet : Worksheet) (cell : Cell)
    (formula : String), b.sheets[p.sheet]? = some sheet ∧ b.cellAt? p = some cell ∧
      cell.formula = some formula ∧
        (!cell.value.agrees (formulaValue (b.scopeOf sheet) formula)) = true := by
  simp only [isStale, List.any_eq_true, Cell.isStale, Option.any_eq_true]
  constructor
  · rintro ⟨sheet, hsheet, ⟨place, cell⟩, hmem, formula, hformula, hstale⟩
    obtain ⟨i, hi⟩ := List.getElem?_of_mem hsheet
    exact ⟨⟨i, place⟩, sheet, cell, formula, hi, (cellAt?_eq hi).trans (Grid.mem_toList.1 hmem),
      hformula, hstale⟩
  · rintro ⟨p, sheet, cell, formula, hsheet, hcell, hformula, hstale⟩
    rw [cellAt?_eq hsheet] at hcell
    exact ⟨sheet, List.mem_of_getElem? hsheet, (p.place, cell), Grid.mem_toList.2 hcell, formula,
      hformula, hstale⟩

/-- A pass in any order does what a pass over all cells at once does. -/
theorem passIn_eq {order : List CellAddress} (horder : Enumerates order b) (hc : SameCells c b) :
    SameCells (passIn (order.map b.target) c).1 b.recalculateOnce ∧
      (passIn (order.map b.target) c).2 = b.isStale := by
  have hstored : ∀ p ∈ order, (c.cellAt? p).isSome = true := by
    intro p hp
    obtain ⟨cell, hcell, -⟩ := (horder.mem p).1 hp
    rw [hc.cellAt?, hcell, Option.isSome_some]
  obtain ⟨hnames, hcells, hchanged⟩ :=
    foldl_write (fun p => c.targetValue (b.target p)) horder.nodup (c, false) hstored
  rw [passIn, List.map_map, List.foldl_map]
  refine ⟨⟨?_, fun p => ?_⟩, ?_⟩
  · exact hnames.trans (hc.sheetNames.trans (sheetNames_eq (withoutCached_recalculateOnce b)).symm)
  · refine (hcells p).trans ?_
    by_cases hp : p ∈ order
    · obtain ⟨cell, hcell, hformula⟩ := (horder.mem p).1 hp
      obtain ⟨formula, hformula⟩ := Option.isSome_iff_exists.1 hformula
      obtain ⟨sheet, hsheet, -⟩ := exists_of_cellAt?_eq_some hcell
      rw [if_pos hp, cellAt?_recalculateOnce hsheet, targetValue_target hc hsheet hcell hformula,
        hc.cellAt?, hcell, Option.map_some, Option.map_some, recalculate_eq_store hformula]
    · rw [if_neg hp, hc.cellAt?]
      exact cellAt?_eq_of_not_holdsFormula (withoutCached_recalculateOnce b).symm
        fun hformula => hp ((horder.mem p).2 hformula)
  · refine hchanged.trans ?_
    rw [Bool.false_or, Bool.eq_iff_iff, List.any_eq_true, isStale_iff]
    constructor
    · rintro ⟨p, hp, hstale⟩
      obtain ⟨cell, hcell, hformula⟩ := (horder.mem p).1 hp
      obtain ⟨formula, hformula⟩ := Option.isSome_iff_exists.1 hformula
      obtain ⟨sheet, hsheet, -⟩ := exists_of_cellAt?_eq_some hcell
      rw [hc.cellAt?, hcell, Option.getD_some, targetValue_target hc hsheet hcell hformula] at hstale
      exact ⟨p, sheet, cell, formula, hsheet, hcell, hformula, hstale⟩
    · rintro ⟨p, sheet, cell, formula, hsheet, hcell, hformula, hstale⟩
      refine ⟨p, (horder.mem p).2 ⟨cell, hcell, by rw [Cell.hasFormula, hformula]; rfl⟩, ?_⟩
      rw [hc.cellAt?, hcell, Option.getD_some, targetValue_target hc hsheet hcell hformula]
      exact hstale

/-- Writing results one by one, in any order, ends with the same cells. -/
theorem cellAt?_recalculateIn {order : List CellAddress} (horder : Enumerates order b)
    (p : CellAddress) : (b.recalculateIn order).cellAt? p = b.recalculate.cellAt? p := by
  have hlength : order.length = b.formulaCount := by
    rw [← length_formulaCells]
    refine List.Perm.length_eq ?_
    rw [List.perm_ext_iff_of_nodup horder.nodup (nodup_formulaCells b)]
    intro p
    rw [horder.mem, mem_formulaCells]
  have hpasses : ∀ (k : Nat) (c d : Workbook), SameCells c d →
      d.withoutCached = b.withoutCached →
        SameCells (passesIn (order.map b.target) k c) (recalculatePasses k d) := by
    intro k
    induction k with
    | zero => exact fun c d hc _ => hc
    | succ k ih =>
      intro c d hc hd
      have horder' : Enumerates order d :=
        ⟨horder.nodup, fun p => (horder.mem p).trans (holdsFormula_iff hd).symm⟩
      obtain ⟨hpass, hchanged⟩ := passIn_eq horder' hc
      rw [target_eq hd] at hpass hchanged
      rw [passesIn, recalculatePasses, hchanged]
      by_cases hstale : d.isStale = true
      · rw [if_pos hstale, if_pos hstale]
        exact ih _ _ hpass ((withoutCached_recalculateOnce d).trans hd)
      · rw [if_neg hstale, if_neg hstale]
        rwa [recalculateOnce_of_not_isStale (Bool.eq_false_of_not_eq_true hstale)] at hpass
  rw [recalculateIn, recalculate, hlength]
  exact (hpasses _ b b (.refl b) rfl).cellAt? p

/-! ## The solution -/

/-- The change test tells different values apart in every pass of a recalculation. -/
def RunTellsApart (b : Workbook) : Prop :=
  ∀ k ≤ b.formulaCount, (recalculatePasses k b).TellsApart

/-- A recalculation ends at the only solution.  Where no formula cell depends on itself, and the
change test tells the values of the run apart:

* every formula cell holds the value that its formula has in the outcome;
* nothing but the values of formula cells has changed;
* there is no other solution with the same formulas and other contents;
* the outcome is the same whatever the formula cells held before;
* it is the same in whatever order a pass goes through the formula cells. -/
theorem recalculate_reaches_solution (hacyclic : b.Acyclic) (happart : b.RunTellsApart) :
    b.recalculate.IsSolved ∧ b.recalculate.withoutCached = b.withoutCached ∧
      (∀ b' : Workbook, b'.withoutCached = b.withoutCached → b'.IsSolved → b' = b.recalculate) ∧
      (∀ b' : Workbook, b'.withoutCached = b.withoutCached → b'.RunTellsApart →
        b'.recalculate = b.recalculate ∧
          ∀ order, Enumerates order b' →
            ∀ p, (b'.recalculateIn order).cellAt? p = b.recalculate.cellAt? p) := by
  have hsolved : ∀ {b : Workbook}, b.Acyclic → b.RunTellsApart →
      b.recalculate.IsSolved ∧ b.recalculate.withoutCached = b.withoutCached := by
    intro b hacyclic happart
    have hreached := isSolved_iterate hacyclic fun j hj =>
      (recalculatePasses_eq_iterate j b) ▸ happart j hj
    rw [recalculate, recalculatePasses_eq_iterate, Function.iterate_succ_apply',
      hreached.recalculateOnce_eq]
    exact ⟨hreached, withoutCached_iterate _ b⟩
  obtain ⟨hb, hcached⟩ := hsolved hacyclic happart
  have hunique : ∀ b' : Workbook, b'.withoutCached = b.withoutCached → b'.IsSolved →
      b' = b.recalculate := fun b' h hb' =>
    hb'.unique hb (h.trans hcached.symm) ((acyclic_iff h).2 hacyclic)
  refine ⟨hb, hcached, hunique, fun b' h happart' => ?_⟩
  obtain ⟨hb', hcached'⟩ := hsolved ((acyclic_iff h).2 hacyclic) happart'
  have heq := hunique b'.recalculate (hcached'.trans h) hb'
  refine ⟨heq, fun order horder p => ?_⟩
  rw [cellAt?_recalculateIn horder, heq]

/-! ## A chain across sheets -/

/-- A text, a formula that adds to it, and a formula on another sheet that adds to that. -/
def chainBook : Workbook where
  sheets := [
    { name := "Data"
      grid := (({} : Grid).set ⟨0, 0⟩ (.ofValue (.text "a"))).set ⟨0, 1⟩
        { formula := some "=A1&\"!\"" } },
    { name := "Report"
      grid := ({} : Grid).set ⟨0, 0⟩ { formula := some "=Data!B1&\"?\"" } }]

theorem formula_chainBook {p : CellAddress} {cell : Cell} {formula : String}
    (hcell : chainBook.cellAt? p = some cell) (hformula : cell.formula = some formula) :
    p = ⟨0, 0, 1⟩ ∧ formula = "=A1&\"!\"" ∨ p = ⟨1, 0, 0⟩ ∧ formula = "=Data!B1&\"?\"" := by
  obtain ⟨i, place⟩ := p
  obtain ⟨sheet, hsheet, hget⟩ := exists_of_cellAt?_eq_some hcell
  match i, hsheet with
  | 0, hsheet =>
    obtain rfl := Option.some.inj hsheet
    simp only [Worksheet.cell?, Grid.get?_set] at hget
    split_ifs at hget with h₁ h₂
    · obtain rfl := Option.some.inj hget
      exact .inl ⟨congrArg (CellAddress.mk 0) h₁, (Option.some.inj hformula).symm⟩
    · obtain rfl := Option.some.inj hget
      cases hformula
    · cases hget
  | 1, hsheet =>
    obtain rfl := Option.some.inj hsheet
    simp only [Worksheet.cell?, Grid.get?_set] at hget
    split_ifs at hget with h₁
    · obtain rfl := Option.some.inj hget
      exact .inr ⟨congrArg (CellAddress.mk 1) h₁, (Option.some.inj hformula).symm⟩
    · cases hget

theorem parseFormula_near : parseFormula "=A1&\"!\"" =
    .ok (.binary .concat (.cell none ⟨"A", 1, false, false⟩) (.literal (.text "!"))) := by
  have htokens : tokenize "=A1&\"!\"" = [.symbol .equals, .name "A1", .symbol .ampersand,
    .text "!"] := by cbv
  rw [parseFormula, htokens, parseTokens_eq_ok_iff]
  have hcell : cellRef "A1" = .ok ⟨"A", 1, false, false⟩ := rfl
  have hleft : Derives (.chain .concatenation) [.name "A1"] _ :=
    .of_primary (.reference .none (.cell hcell))
  have hright : Derives (.chain .sum) [.text "!"] _ := .of_primary (.text "!")
  have hjoin : Level.concatenation.operator? .ampersand = some .concat := rfl
  exact .operand (.chain hjoin hleft hright)

theorem parseFormula_far : parseFormula "=Data!B1&\"?\"" =
    .ok (.binary .concat (.cell (some "DATA") ⟨"B", 1, false, false⟩) (.literal (.text "?"))) := by
  have htokens : tokenize "=Data!B1&\"?\"" = [.symbol .equals, .name "DATA", .symbol .exclamation,
    .name "B1", .symbol .ampersand, .text "?"] := by cbv
  rw [parseFormula, htokens, parseTokens_eq_ok_iff]
  have hcell : cellRef "B1" = .ok ⟨"B", 1, false, false⟩ := rfl
  have hleft : Derives (.chain .concatenation) [.name "DATA", .symbol .exclamation, .name "B1"] _ :=
    .of_primary (.reference (.name "DATA") (.cell hcell))
  have hright : Derives (.chain .sum) [.text "?"] _ := .of_primary (.text "?")
  have hjoin : Level.concatenation.operator? .ampersand = some .concat := rfl
  exact .operand (.chain hjoin hleft hright)

theorem dependsOn_chainBook {p q : CellAddress} (h : chainBook.DependsOn p q) :
    p = ⟨1, 0, 0⟩ ∧ q = ⟨0, 0, 1⟩ := by
  obtain ⟨⟨cell', hcell', hformula'⟩, cell, formula, hcell, hformula, e, he, r, hr, hsheet, hplace⟩ := h
  obtain ⟨formula', hformula'⟩ := Option.isSome_iff_exists.1 hformula'
  rcases formula_chainBook hcell hformula with ⟨rfl, rfl⟩ | ⟨rfl, rfl⟩
  · rw [parseFormula_near, Except.ok.injEq] at he
    subst he
    obtain rfl := List.mem_singleton.1 hr
    rcases formula_chainBook hcell' hformula' with ⟨rfl, -⟩ | ⟨rfl, -⟩
    · have hcorner : (⟨0, 1⟩ : Coord) = CellRef.place ⟨"A", 1, false, false⟩ := hplace
      exact absurd hcorner (by decide)
    · cases hsheet
  · rw [parseFormula_far, Except.ok.injEq] at he
    subst he
    obtain rfl := List.mem_singleton.1 hr
    refine ⟨rfl, ?_⟩
    have hnumber : sheetNumber? ["Data", "Report"] "DATA" = some 0 := by decide +kernel
    rcases formula_chainBook hcell' hformula' with ⟨rfl, -⟩ | ⟨rfl, -⟩
    · rfl
    · cases hnumber.symm.trans hsheet

theorem acyclic_chainBook : chainBook.Acyclic := by
  intro p hp
  obtain ⟨q, hfirst, -⟩ := Relation.TransGen.head'_iff.1 hp
  obtain ⟨r, -, hlast⟩ := Relation.TransGen.tail'_iff.1 hp
  have h : (⟨1, 0, 0⟩ : CellAddress) = ⟨0, 0, 1⟩ :=
    (dependsOn_chainBook hfirst).1.symm.trans (dependsOn_chainBook hlast).2
  exact absurd h (by decide)

theorem agrees_of_concat {scope : Scope} {left right : Expr} {value : CellValue}
    (h : value.agrees ((Expr.binary .concat left right).eval scope).toCell = true) :
    value = ((Expr.binary .concat left right).eval scope).toCell := by
  have herror : ∀ v : Value, v.isError = true → value.agrees v.toCell = true → value = v.toCell := by
    intro v hv hagrees
    cases v <;> cases hv
    cases value <;> first | cases hagrees | exact congrArg _ (eq_of_beq hagrees)
  rw [Expr.eval, BinaryOp.eval] at h ⊢
  split at h
  · next hleft => rw [if_pos hleft]; exact herror _ hleft h
  · next hleft =>
    rw [if_neg hleft]
    split at h
    · next hright => rw [if_pos hright]; exact herror _ hright h
    · next hright =>
      rw [if_neg hright]
      cases value <;> first | cases h | exact congrArg _ (eq_of_beq h)

theorem runTellsApart_chainBook : chainBook.RunTellsApart := by
  intro k _ sheet hsheet place cell formula hcell hformula h
  rw [recalculatePasses_eq_iterate] at hsheet h ⊢
  obtain ⟨i, hi⟩ := List.getElem?_of_mem hsheet
  have hcached := map_cellAt?_eq (withoutCached_iterate k chainBook) ⟨i, place⟩
  rw [cellAt?_eq hi, hcell, Option.map_some, eq_comm, Option.map_eq_some_iff] at hcached
  obtain ⟨cell', hcell', heq⟩ := hcached
  have hformula' : cell'.formula = some formula := by
    rw [← Cell.formula_withoutCached, heq, Cell.formula_withoutCached, hformula]
  rcases formula_chainBook hcell' hformula' with ⟨-, rfl⟩ | ⟨-, rfl⟩
  · rw [formulaValue, parseFormula_near] at h ⊢
    exact agrees_of_concat h
  · rw [formulaValue, parseFormula_far] at h ⊢
    exact agrees_of_concat h

/-- The chain is recalculated to its only solution. -/
theorem recalculate_chainBook : chainBook.Acyclic ∧ chainBook.RunTellsApart ∧
    chainBook.recalculate.IsSolved ∧ chainBook.recalculate.withoutCached = chainBook.withoutCached ∧
      (∀ b' : Workbook, b'.withoutCached = chainBook.withoutCached → b'.IsSolved →
        b' = chainBook.recalculate) ∧
      (∀ b' : Workbook, b'.withoutCached = chainBook.withoutCached → b'.RunTellsApart →
        b'.recalculate = chainBook.recalculate ∧
          ∀ order, Enumerates order b' →
            ∀ p, (b'.recalculateIn order).cellAt? p = chainBook.recalculate.cellAt? p) :=
  ⟨acyclic_chainBook, runTellsApart_chainBook,
    recalculate_reaches_solution acyclic_chainBook runTellsApart_chainBook⟩

end Workbook

end SheetPress
