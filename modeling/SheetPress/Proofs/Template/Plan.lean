import SheetPress.Proofs.Sheet.Writing
import SheetPress.Template.Table

/-!
# Plans that were read from a template

A template is read row by row, and what was read so far obeys `PlanRead`: columns are told apart by
their place, directive rows go from top to bottom, and the sheet has lost nothing but formulas of
directive rows.

* `readRow_cases`, `readRows_preserves` — what a row does, and that all rows preserve what each does.
* `PlanRead.readRow` — reading one more row keeps this true.
* `planRead_of_compileTable` — so it is true of the plan of a table.
-/

namespace SheetPress

/-! ## Taking samples -/

theorem Worksheet.cell?_dropFormula (w : Worksheet) (place p : Coord) :
    (w.dropFormula place).cell? p =
      if p = place then (w.cell? place).map fun cell => { cell with formula := none }
      else w.cell? p := by
  unfold dropFormula
  cases hcell : w.cell? place with
  | none =>
    rw [formula?, hcell, if_neg (by decide)]
    by_cases hp : p = place
    · rw [if_pos hp, hp, hcell, Option.map_none]
    · rw [if_neg hp]
  | some cell =>
    rw [formula?, hcell, Option.bind_some, Option.map_some]
    cases hformula : cell.formula with
    | none =>
      rw [if_neg (by decide)]
      by_cases hp : p = place
      · rw [if_pos hp, hp, hcell]
        cases cell
        obtain rfl : _ = none := hformula
        rfl
      · rw [if_neg hp]
    | some formula =>
      rw [if_pos (by rfl), cell?_setFormula_of_isBlankText rfl, hcell, Option.map_some]

theorem Worksheet.formula?_of_dropFormula {w : Worksheet} {place p : Coord} {formula : String}
    (h : (w.dropFormula place).formula? p = some formula) : w.formula? p = some formula := by
  rw [formula?, cell?_dropFormula] at h
  split at h
  · next hp =>
    cases hcell : w.cell? place with
    | none => rw [hcell] at h; cases h
    | some cell => rw [hcell] at h; cases h
  · exact h

section Samples

variable {row : Nat} {columns : List TableColumn} {w : Worksheet} {p : Coord}

theorem cell?_takeSamples (hp : p.row ≠ row) : (takeSamples row w columns).1.cell? p = w.cell? p := by
  unfold takeSamples
  dsimp only
  induction columns generalizing w with
  | nil => rfl
  | cons c columns ih =>
    rw [List.foldl_cons, ih, Worksheet.cell?_dropFormula, if_neg]
    rintro rfl
    exact hp rfl

theorem formula?_of_takeSamples {formula : String}
    (h : (takeSamples row w columns).1.formula? p = some formula) :
    w.formula? p = some formula := by
  unfold takeSamples at h
  dsimp only at h
  induction columns generalizing w with
  | nil => exact h
  | cons c columns ih => exact Worksheet.formula?_of_dropFormula (ih h)

end Samples

/-! ## Runs of cells -/

/-- What every cell that is read preserves, all cells of a row preserve. -/
theorem readCells_preserves {P : Nat → List TableColumn → Prop} {sheet : String}
    {kind : DirectiveKind} {row col : Nat} {cells : List String} {columns columns' : List TableColumn}
    (hstep : ∀ {col columns} text, P col columns → P (col + 1) (readCell kind col text columns))
    (hstart : P col columns) (h : readCells sheet kind row col cells columns = .ok columns') :
    P (col + cells.length) columns' := by
  induction cells generalizing col columns with
  | nil =>
    obtain rfl := Except.ok.inj h
    exact hstart
  | cons text cells ih =>
    rw [readCells] at h
    split at h
    · have hlast := ih (hstep text hstart) h
      rwa [List.length_cons, show col + (cells.length + 1) = col + 1 + cells.length by omega]
    · cases h

/-! ## Columns -/

/-- Columns have places of their own behind the first column, and formulas of samples are formulas
of a sheet. -/
structure ColumnsRead (w : Worksheet) (columns : List TableColumn) : Prop where
  nodup : (columns.map (·.templateCol)).Nodup
  pos : ∀ c ∈ columns, 1 ≤ c.templateCol
  samples : ∀ c ∈ columns, ∀ sample ∈ c.samples, ∀ formula, sample.formula = some formula →
    ∃ place, w.formula? place = some formula

section Columns

variable {w : Worksheet} {columns columns' : List TableColumn}

theorem templateCol_tell (kind : DirectiveKind) (text : String) (c : TableColumn) :
    (c.tell kind text).templateCol = c.templateCol := by
  unfold TableColumn.tell
  cases kind <;> rfl

theorem samples_tell (kind : DirectiveKind) (text : String) (c : TableColumn) :
    (c.tell kind text).samples = c.samples := by
  unfold TableColumn.tell
  cases kind <;> rfl

/-- Telling columns something about them moves none. -/
theorem ColumnsRead.map (h : ColumnsRead w columns) {f : TableColumn → TableColumn}
    (hcol : ∀ c ∈ columns, (f c).templateCol = c.templateCol)
    (hsamples : ∀ c ∈ columns, ∀ sample ∈ (f c).samples, ∀ formula, sample.formula = some formula →
      ∃ place, w.formula? place = some formula) : ColumnsRead w (columns.map f) := by
  refine ⟨?_, ?_, ?_⟩
  · rw [List.map_map, List.map_congr_left (g := (·.templateCol)) hcol]
    exact h.nodup
  · rintro _ hmem
    obtain ⟨c, hc, rfl⟩ := List.mem_map.1 hmem
    rw [hcol c hc]
    exact h.pos c hc
  · rintro _ hmem
    obtain ⟨c, hc, rfl⟩ := List.mem_map.1 hmem
    exact hsamples c hc

theorem ColumnsRead.readCell (h : ColumnsRead w columns) {kind : DirectiveKind} {col : Nat}
    {text : String} (hcol : 1 ≤ col) : ColumnsRead w (readCell kind col text columns) := by
  unfold SheetPress.readCell
  by_cases hany : columns.any (·.templateCol == col) = true
  · rw [if_pos hany]
    refine h.map (fun c _ => ?_) fun c hc sample hsample formula hformula => ?_
    · split
      · exact templateCol_tell kind text c
      · rfl
    · refine h.samples c hc sample ?_ formula hformula
      split at hsample
      · rwa [samples_tell] at hsample
      · exact hsample
  · rw [if_neg hany]
    split
    · have hnew : ∀ c ∈ columns, c.templateCol ≠ col := by
        intro c hc heq
        exact hany (List.any_eq_true.2 ⟨c, hc, beq_iff_eq.2 heq⟩)
      refine ⟨?_, ?_, ?_⟩
      · rw [List.map_append, List.nodup_append]
        refine ⟨h.nodup, List.nodup_singleton _, ?_⟩
        rintro _ ha _ hb
        obtain ⟨c, hc, rfl⟩ := List.mem_map.1 ha
        obtain rfl := List.mem_singleton.1 hb
        exact hnew c hc
      · intro c hc
        rcases List.mem_append.1 hc with hc | hc
        · exact h.pos c hc
        · obtain rfl := List.mem_singleton.1 hc
          exact hcol
      · intro c hc
        rcases List.mem_append.1 hc with hc | hc
        · exact h.samples c hc
        · obtain rfl := List.mem_singleton.1 hc
          intro sample hsample
          cases hsample
    · exact h

theorem ColumnsRead.readCells (h : ColumnsRead w columns) {sheet : String} {kind : DirectiveKind}
    {row col : Nat} {cells : List String} (hcol : 1 ≤ col)
    (hread : readCells sheet kind row col cells columns = .ok columns') :
    ColumnsRead w columns' :=
  (readCells_preserves (P := fun col columns => 1 ≤ col ∧ ColumnsRead w columns)
    (fun _ h => ⟨Nat.le_succ_of_le h.1, h.2.readCell h.1⟩) ⟨hcol, h⟩ hread).2

/-- New samples are cells of the sheet. -/
theorem ColumnsRead.takeSamples {w₀ : Worksheet} (h : ColumnsRead w₀ columns) (row : Nat)
    (hw : ∀ place formula, w.formula? place = some formula → w₀.formula? place = some formula) :
    ColumnsRead w₀ (takeSamples row w columns).2 := by
  refine h.map (fun _ _ => rfl) fun c hc sample hsample formula hformula => ?_
  rcases List.mem_append.1 hsample with hsample | hsample
  · exact h.samples c hc sample hsample formula hformula
  · obtain rfl := List.mem_singleton.1 hsample
    exact ⟨_, hw _ _ hformula⟩

end Columns

/-! ## Single rows and runs of rows -/

section Reading

variable {labels : DirectiveLabels} {w w' : Worksheet} {plan plan' : TablePlan} {row : Nat}

/-- What a row of the template does: nothing if it has no directive, and else it becomes a directive row
whose samples are taken or whose cells are read. -/
theorem readRow_cases {cells : List String}
    (h : readRow labels row cells (w, plan) = .ok (w', plan')) :
    cells.head?.bind labels.directive? = none ∧ w' = w ∧ plan' = plan ∨
      ∃ kind columns, cells.head?.bind labels.directive? = some kind ∧
        plan' = ⟨columns, plan.directives ++ [⟨kind, row, cells⟩],
          if kind = .header then plan.firstRow.or (some (row + 1)) else plan.firstRow⟩ ∧
        (kind = .data ∧ w' = (takeSamples row w plan.columns).1 ∧
            columns = (takeSamples row w plan.columns).2 ∨
          kind ≠ .data ∧ w' = w ∧
            readCells w.name kind row 1 (cells.drop 1) plan.columns = .ok columns) := by
  rw [readRow] at h
  cases hkind : cells.head?.bind labels.directive? with
  | none =>
    rw [hkind] at h
    obtain ⟨rfl, rfl⟩ := Prod.mk.inj (Except.ok.inj h)
    exact .inl ⟨rfl, rfl, rfl⟩
  | some kind =>
    rw [hkind] at h
    dsimp only at h
    refine .inr ⟨kind, plan'.columns, rfl, ?_⟩
    split at h
    · cases h
    · split at h
      · obtain ⟨rfl, rfl⟩ := Prod.mk.inj (Except.ok.inj h)
        exact ⟨rfl, .inl ⟨rfl, rfl, rfl⟩⟩
      · next hdata =>
        cases hcolumns : readCells w.name kind row 1 (cells.drop 1) plan.columns with
        | error e => rw [hcolumns] at h; cases h
        | ok columns =>
          rw [hcolumns] at h
          obtain ⟨rfl, rfl⟩ := Prod.mk.inj (Except.ok.inj h)
          exact ⟨rfl, .inr ⟨hdata, rfl, rfl⟩⟩

theorem exists_of_readRows_cons {cells : List String} {rows : List (List String)}
    {state state' : Worksheet × TablePlan}
    (h : readRows labels row (cells :: rows) state = .ok state') :
    ∃ between, readRow labels row cells state = .ok between ∧
      readRows labels (row + 1) rows between = .ok state' := by
  rw [readRows] at h
  cases hrow : readRow labels row cells state with
  | error e => rw [hrow] at h; cases h
  | ok between =>
    rw [hrow] at h
    exact ⟨between, rfl, h⟩

/-- What every row that is read preserves, all rows preserve. -/
theorem readRows_preserves {P : Nat → Worksheet → TablePlan → Prop}
    (hstep : ∀ {row cells w plan w' plan'}, P row w plan →
      readRow labels row cells (w, plan) = .ok (w', plan') → P (row + 1) w' plan')
    {rows : List (List String)} (hstart : P row w plan)
    (h : readRows labels row rows (w, plan) = .ok (w', plan')) : P (row + rows.length) w' plan' := by
  induction rows generalizing row w plan with
  | nil =>
    obtain ⟨rfl, rfl⟩ := Prod.mk.inj (Except.ok.inj h)
    exact hstart
  | cons cells rows ih =>
    obtain ⟨⟨w₁, plan₁⟩, hrow, hrest⟩ := exists_of_readRows_cons h
    have hlast := ih (hstep hstart hrow) hrest
    rwa [List.length_cons, show row + (rows.length + 1) = row + 1 + rows.length by omega]

end Reading

/-! ## Rows -/

/-- What has been read from the rows in front of row `next` of the sheet `w₀`, and the sheet that is
left of it. -/
structure PlanRead (w₀ : Worksheet) (next : Nat) (w : Worksheet) (plan : TablePlan) : Prop where
  columns : ColumnsRead w₀ plan.columns
  /-- Directive rows go from top to bottom. -/
  sorted : (plan.directives.map (·.row)).Pairwise (· < ·)
  below : ∀ d ∈ plan.directives, d.row < next
  /-- Records begin below the first header row. -/
  firstRow : plan.firstRow = (plan.directives.find? (·.kind = .header)).map (·.row + 1)
  formulas : ∀ place formula, w.formula? place = some formula → w₀.formula? place = some formula
  /-- Outside of directive rows the sheet is as it was. -/
  kept : ∀ place, (∀ d ∈ plan.directives, d.row ≠ place.row) → w.cell? place = w₀.cell? place

section Rows

variable {labels : DirectiveLabels} {w₀ w w' : Worksheet} {plan plan' : TablePlan} {row : Nat}

theorem PlanRead.init (w : Worksheet) : PlanRead w 0 w {} where
  columns := ⟨.nil, fun _ h => absurd h List.not_mem_nil, fun _ h => absurd h List.not_mem_nil⟩
  sorted := .nil
  below _ h := absurd h List.not_mem_nil
  firstRow := rfl
  formulas _ _ h := h
  kept _ _ := rfl

/-- A row with a directive takes its place behind those that were read. -/
theorem PlanRead.directive (h : PlanRead w₀ row w plan) (kind : DirectiveKind)
    (cells : List String) {columns : List TableColumn} (hcolumns : ColumnsRead w₀ columns)
    (hformulas : ∀ place formula, w'.formula? place = some formula →
      w.formula? place = some formula)
    (hkept : ∀ place : Coord, place.row ≠ row → w'.cell? place = w.cell? place) :
    PlanRead w₀ (row + 1) w'
      { columns
        directives := plan.directives ++ [⟨kind, row, cells⟩]
        firstRow := if kind = .header then plan.firstRow.or (some (row + 1)) else plan.firstRow } where
  columns := hcolumns
  sorted := by
    rw [List.map_append, List.pairwise_append]
    refine ⟨h.sorted, List.pairwise_singleton .., fun a ha b hb => ?_⟩
    obtain ⟨d, hd, rfl⟩ := List.mem_map.1 ha
    obtain rfl := List.mem_singleton.1 hb
    exact h.below d hd
  below d hd := by
    rcases List.mem_append.1 hd with hd | hd
    · exact (h.below d hd).trans (Nat.lt_succ_self row)
    · obtain rfl := List.mem_singleton.1 hd
      exact Nat.lt_succ_self row
  firstRow := by
    rw [List.find?_append, h.firstRow]
    by_cases hkind : kind = .header
    · rw [if_pos hkind, List.find?_cons_of_pos (by simpa using hkind)]
      cases plan.directives.find? (·.kind = .header) <;> rfl
    · rw [if_neg hkind, List.find?_cons_of_neg (by simpa using hkind)]
      cases plan.directives.find? (·.kind = .header) <;> rfl
  formulas place formula hformula := h.formulas place formula (hformulas place formula hformula)
  kept place hplace := by
    rw [hkept place fun heq => hplace ⟨kind, row, cells⟩ (by simp) heq.symm]
    exact h.kept place fun d hd => hplace d (List.mem_append_left _ hd)

/-- Reading one more row. -/
theorem PlanRead.readRow (h : PlanRead w₀ row w plan) {cells : List String}
    (hread : readRow labels row cells (w, plan) = .ok (w', plan')) :
    PlanRead w₀ (row + 1) w' plan' := by
  rcases readRow_cases hread with
    ⟨-, rfl, rfl⟩ | ⟨kind, columns, -, rfl, ⟨rfl, rfl, rfl⟩ | ⟨-, rfl, hcolumns⟩⟩
  · exact { h with below := fun d hd => (h.below d hd).trans (Nat.lt_succ_self row) }
  · exact h.directive .data cells (h.columns.takeSamples row h.formulas)
      (fun _ _ hformula => formula?_of_takeSamples hformula) fun _ hplace =>
        cell?_takeSamples hplace
  · exact h.directive kind cells (h.columns.readCells le_rfl hcolumns)
      (fun _ _ hformula => hformula) fun _ _ => rfl

/-- The plan of a table. -/
theorem planRead_of_compileTable {rows : List (List String)}
    (h : compileTable labels w rows = .ok (w', plan)) : PlanRead w rows.length w' plan :=
  Nat.zero_add rows.length ▸
    readRows_preserves (fun hread hrow => hread.readRow hrow) (PlanRead.init w) h

end Rows

end SheetPress
