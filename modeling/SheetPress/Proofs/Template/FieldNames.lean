import SheetPress.Proofs.Template.Plan
import SheetPress.Proofs.Template.Subtotals

/-!
# Names of fields

A row of field names is read twice: every column of the table takes its field from the last such row
below its header, as it is written there, and a subtotal takes its fields from the first such row,
without white space around them.  A table shows a subtotal where both give one name.

* `dataField_of_compileTable` — the field of a column.
* `Subtotal.field?_summary` — what a summary holds.
* `TablePlan.subtotals_lookUp` — when the fields of a subtotal are those of its columns, and so its
  label and its formula are the ones that the columns look up.
-/

namespace SheetPress

/-! ## Rows that name fields -/

/-- What a cell of a row makes of the field of its column; there is none before the column is opened. -/
def readName (kind : DirectiveKind) (text : String) (field : Option String) : Option String :=
  match field with
  | some old => some (if kind = .dataField then text else old)
  | none => if kind = .header ∧ !isBlankText text then some "" else none

namespace DirectiveRow

/-- A header row opens a column by a text that is not blank. -/
def opens (col : Nat) (d : DirectiveRow) : Bool := d.kind == .header && !isBlankText (d.text col)

/-- A row of field names names the field of each column that it reaches. -/
def names (col : Nat) (d : DirectiveRow) : Bool := d.kind == .dataField && col < d.cells.length

/-- What a row makes of the field of a column: what its cell there makes of it, if it has one. -/
def rename (col : Nat) (field : Option String) (d : DirectiveRow) : Option String :=
  match d.cells[col]? with
  | some text => readName d.kind text field
  | none => field

theorem rename_some (col : Nat) (old : String) (d : DirectiveRow) :
    d.rename col (some old) = some (if d.names col then d.text col else old) := by
  unfold rename names text
  cases htext : d.cells[col]? with
  | none =>
    have hlength := List.getElem?_eq_none_iff.1 htext
    simp [hlength]
  | some text =>
    have hlength := (List.getElem?_eq_some_iff.1 htext).1
    simp [readName, hlength]

theorem rename_none (col : Nat) (d : DirectiveRow) :
    d.rename col none = if d.opens col then some "" else none := by
  unfold rename opens text
  cases htext : d.cells[col]? with
  | none =>
    have hblank : isBlankText "" = true := by decide
    simp [hblank]
  | some text => simp [readName]

end DirectiveRow

/-- The text that names the field of a column: that of the last row below its header row that does so,
and none if there is no such row. -/
def TablePlan.fieldText (plan : TablePlan) (col : Nat) : String :=
  (((plan.directives.dropWhile (! ·.opens col)).filter (·.names col)).getLast?.map
    (·.text col)).getD ""

section Rename

variable {col : Nat} {rows : List DirectiveRow}

theorem foldl_rename_some (col : Nat) (rows : List DirectiveRow) (old : String) :
    rows.foldl (DirectiveRow.rename col) (some old) =
      some (((rows.filter (·.names col)).getLast?.map (·.text col)).getD old) := by
  induction rows generalizing old with
  | nil => rfl
  | cons d rows ih =>
    rw [List.foldl_cons, DirectiveRow.rename_some, ih, List.filter_cons]
    split
    · rw [List.getLast?_cons]
      cases (rows.filter (·.names col)).getLast? <;> rfl
    · rfl

/-- A header row names no field, so the rows that count are those from there on. -/
theorem eq_of_foldl_rename_none {field : String}
    (h : rows.foldl (DirectiveRow.rename col) none = some field) :
    field = (((rows.dropWhile (! ·.opens col)).filter (·.names col)).getLast?.map
      (·.text col)).getD "" := by
  induction rows with
  | nil => cases h
  | cons d rows ih =>
    rw [List.foldl_cons, DirectiveRow.rename_none] at h
    cases hopens : d.opens col with
    | false =>
      rw [hopens] at h
      rw [List.dropWhile_cons_of_pos (by simp [hopens])]
      exact ih h
    | true =>
      have hnames : d.names col = false := by
        have hkind : d.kind = .header := by simpa using (Bool.and_eq_true_iff.1 hopens).1
        rw [DirectiveRow.names, hkind]
        rfl
      rw [hopens, if_pos rfl, foldl_rename_some] at h
      rw [List.dropWhile_cons_of_neg (by simp [hopens]), List.filter_cons_of_neg (by simp [hnames])]
      exact (Option.some.inj h).symm

end Rename

/-- The text that the first row of field names has for a column; subtotals go by it. -/
def TablePlan.firstFieldText (plan : TablePlan) (col : Nat) : String :=
  ((plan.directivesOf .dataField).head?.map (·.text col)).getD ""

/-! ## The fields of columns -/

/-- The field of the column at a place, if there is one. -/
def fieldAt (columns : List TableColumn) (col : Nat) : Option String :=
  (columns.find? (·.templateCol == col)).map (·.dataField)

section FieldAt

variable {columns columns' : List TableColumn} {kind : DirectiveKind} {col : Nat}

theorem fieldAt_map (f : TableColumn → TableColumn)
    (hf : ∀ c ∈ columns, (f c).templateCol = c.templateCol) (col : Nat) :
    fieldAt (columns.map f) col =
      ((columns.find? (·.templateCol == col)).map f).map (·.dataField) := by
  unfold fieldAt
  congr 1
  induction columns with
  | nil => rfl
  | cons c columns ih =>
    obtain ⟨hc, hcolumns⟩ := List.forall_mem_cons.1 hf
    rw [List.map_cons, List.find?_cons, List.find?_cons, hc, ih hcolumns]
    split <;> rfl

theorem dataField_tell (kind : DirectiveKind) (text : String) (c : TableColumn) :
    (c.tell kind text).dataField = if kind = .dataField then text else c.dataField := by
  unfold TableColumn.tell
  cases kind <;> rfl

theorem fieldAt_readCell (kind : DirectiveKind) (place : Nat) (text : String)
    (columns : List TableColumn) (col : Nat) :
    fieldAt (readCell kind place text columns) col =
      if col = place then readName kind text (fieldAt columns col) else fieldAt columns col := by
  unfold readCell
  by_cases hany : columns.any (·.templateCol == place) = true
  · rw [if_pos hany, fieldAt_map]
    · unfold fieldAt
      cases hfind : columns.find? (·.templateCol == col) with
      | none =>
        rw [if_neg]
        · rfl
        · rintro rfl
          obtain ⟨c, hc, hcol⟩ := List.any_eq_true.1 hany
          exact List.find?_eq_none.1 hfind c hc hcol
      | some c =>
        have hcol : c.templateCol = col := by simpa using List.find?_some hfind
        rw [Option.map_some, hcol]
        split
        · rw [Option.map_some, dataField_tell]
          rfl
        · rfl
    · intro c _
      split
      · exact templateCol_tell kind text c
      · rfl
  · have hnone : columns.find? (·.templateCol == place) = none :=
      List.find?_eq_none.2 fun c hc hcol => hany (List.any_eq_true.2 ⟨c, hc, hcol⟩)
    rw [if_neg hany]
    by_cases hcol : col = place
    · subst hcol
      rw [if_pos rfl, fieldAt, fieldAt, hnone]
      by_cases hopens : kind = .header ∧ (!isBlankText text) = true
      · rw [if_pos hopens, List.find?_append, hnone]
        simp [readName, hopens]
      · rw [if_neg hopens, hnone]
        simp only [readName, Option.map_none, if_neg hopens]
    · rw [if_neg hcol]
      split
      · rw [fieldAt, List.find?_append, List.find?_cons_of_neg (by simpa using Ne.symm hcol),
          List.find?_nil, Option.or_none]
        rfl
      · rfl

theorem fieldAt_readCells {sheet : String} {row first : Nat} {cells : List String}
    (h : readCells sheet kind row first cells columns = .ok columns') (hcol : first ≤ col) :
    fieldAt columns' col =
      match cells[col - first]? with
      | some text => readName kind text (fieldAt columns col)
      | none => fieldAt columns col := by
  have hskip {first : Nat} {cells : List String} {columns : List TableColumn}
      (h : readCells sheet kind row first cells columns = .ok columns') (hcol : col < first) :
      fieldAt columns' col = fieldAt columns col := by
    refine (readCells_preserves
      (P := fun first read => col < first ∧ fieldAt read col = fieldAt columns col)
      (fun {first read} text hread => ⟨by omega, ?_⟩) ⟨hcol, rfl⟩ h).2
    rw [fieldAt_readCell, if_neg (by omega), hread.2]
  induction cells generalizing first columns with
  | nil =>
    obtain rfl := Except.ok.inj h
    rfl
  | cons text cells ih =>
    rw [readCells] at h
    split at h
    · rcases Nat.eq_or_lt_of_le hcol with rfl | hlt
      · rw [hskip h (Nat.lt_succ_self _), fieldAt_readCell, if_pos rfl, Nat.sub_self]
        rfl
      · rw [ih h hlt, fieldAt_readCell, if_neg (by omega),
          show col - first = (col - (first + 1)) + 1 by omega, List.getElem?_cons_succ]
    · cases h

theorem fieldAt_takeSamples (row : Nat) (w : Worksheet) (columns : List TableColumn) (col : Nat) :
    fieldAt (takeSamples row w columns).2 col = fieldAt columns col := by
  refine (fieldAt_map (fun c => { c with
    samples := c.samples ++ [w.sample ⟨row, c.templateCol⟩] }) (fun _ _ => rfl) col).trans ?_
  rw [fieldAt]
  cases columns.find? (·.templateCol == col) <;> rfl

end FieldAt

section Read

variable {labels : DirectiveLabels} {w w' : Worksheet} {plan plan' : TablePlan} {col row : Nat}

/-- A row leaves of the fields what it makes of them. -/
theorem fieldAt_readRow {cells : List String} (hcol : 1 ≤ col)
    (hplan : fieldAt plan.columns col = plan.directives.foldl (DirectiveRow.rename col) none)
    (h : readRow labels row cells (w, plan) = .ok (w', plan')) :
    fieldAt plan'.columns col = plan'.directives.foldl (DirectiveRow.rename col) none := by
  rcases readRow_cases h with
    ⟨-, rfl, rfl⟩ | ⟨kind, columns, -, rfl, ⟨rfl, rfl, rfl⟩ | ⟨-, rfl, hcolumns⟩⟩
  · exact hplan
  · rw [List.foldl_append, ← hplan, fieldAt_takeSamples, List.foldl_cons, List.foldl_nil]
    -- a row of samples neither names nor opens
    cases fieldAt plan.columns col with
    | none => exact (DirectiveRow.rename_none col ⟨.data, row, cells⟩).symm
    | some old => exact (DirectiveRow.rename_some col old ⟨.data, row, cells⟩).symm
  · rw [List.foldl_append, ← hplan, fieldAt_readCells hcolumns hcol, List.getElem?_drop,
      Nat.add_sub_cancel' hcol]
    rfl

/-- A column is found by its place. -/
theorem ColumnsRead.find? {columns : List TableColumn} (h : ColumnsRead w columns)
    {c : TableColumn} (hc : c ∈ columns) :
    columns.find? (·.templateCol == c.templateCol) = some c := by
  cases hfound : columns.find? (·.templateCol == c.templateCol) with
  | none => exact absurd (beq_self_eq_true _) (List.find?_eq_none.1 hfound c hc)
  | some found =>
    have hcol : found.templateCol = c.templateCol := by simpa using List.find?_some hfound
    rw [List.inj_on_of_nodup_map h.nodup (List.mem_of_find?_eq_some hfound) hc hcol]

/-- The field of a column is what the last row below its header says, as it is written there. -/
theorem dataField_of_compileTable {rows : List (List String)}
    (h : compileTable labels w rows = .ok (w', plan)) {c : TableColumn} (hc : c ∈ plan.columns) :
    c.dataField = plan.fieldText c.templateCol := by
  have hread := (planRead_of_compileTable h).columns
  have hfold := readRows_preserves
    (P := fun _ _ plan => fieldAt plan.columns c.templateCol =
      plan.directives.foldl (DirectiveRow.rename c.templateCol) none)
    (fun hplan hrow => fieldAt_readRow (hread.pos c hc) hplan hrow) rfl h
  rw [fieldAt, hread.find? hc] at hfold
  exact eq_of_foldl_rename_none hfold.symm

end Read

/-! ## The fields of subtotals -/

/-- A subtotal row that resolves has both marks, and the fields below them. -/
theorem DirectiveRow.exists_marks {labels : DirectiveLabels} {fields d : DirectiveRow} {s : Subtotal}
    (h : subtotal? labels fields d = some s) :
    ∃ group sum, d.Marks labels group sum s.spec ∧
      s = ⟨trimText (fields.text group), trimText (fields.text sum), columnName (sum - 1), s.spec⟩ := by
  obtain ⟨group, hgroup, h⟩ := Option.bind_eq_some_iff.1 h
  obtain ⟨⟨sum, spec⟩, hsum, h⟩ := Option.bind_eq_some_iff.1 h
  obtain rfl := Option.some.inj h
  exact ⟨group, sum, ⟨hgroup, hsum⟩, rfl⟩

/-- What the subtotal rows of a plan ask for goes by the first row of field names. -/
theorem TablePlan.exists_marks {labels : DirectiveLabels} {plan : TablePlan} {s : Subtotal}
    (h : s ∈ plan.subtotals labels) :
    ∃ d ∈ plan.directivesOf .subtotal, ∃ group sum, d.Marks labels group sum s.spec ∧
      s = ⟨trimText (plan.firstFieldText group), trimText (plan.firstFieldText sum),
        columnName (sum - 1), s.spec⟩ := by
  unfold subtotals at h
  split at h
  · cases h
  · next fields _ hfields =>
    obtain ⟨d, hd, hsubtotal⟩ := List.mem_filterMap.1 h
    obtain ⟨group, sum, hmarks, heq⟩ := DirectiveRow.exists_marks hsubtotal
    have hfirst (col : Nat) : plan.firstFieldText col = fields.text col := by
      rw [firstFieldText, hfields]
      rfl
    exact ⟨d, hd, group, sum, hmarks, by rw [hfirst, hfirst]; exact heq⟩

theorem Subtotal.field?_summary_eq_formula_iff (s : Subtotal) (label : String) (first last : Nat)
    (name : String) :
    (s.summary label first last).field? name = some (.formula (s.formula first last)) ↔
      s.sumField = name := by
  rw [s.field?_summary]
  split
  · next hsum => simp [hsum]
  · next hsum => split <;> simp [hsum]

theorem Subtotal.field?_summary_eq_label_iff {s : Subtotal} (hne : s.groupField ≠ s.sumField)
    (label : String) (first last : Nat) (name : String) :
    (s.summary label first last).field? name = some (.text label) ↔ s.groupField = name := by
  rw [s.field?_summary]
  split
  · next hsum => simpa using fun hgroup => hne (hgroup.trans hsum.symm)
  · next hsum => split <;> simp [*]

/-- Subtotals and columns go by one name where the two readings of the rows of field names agree.
Let a subtotal of a plan that was read from a template have its marks in columns of the table.

* The letters of its formula are those of the summed column in the finished sheet.
* Its field is that of the summed column if and only if the first row of field names, without white
  space, has there what the last one below the header says; and then and only then a summary has its
  formula in the field that this column looks up.
* It is the same with the column that is grouped by and the label, which a summary keeps if the two
  fields of the subtotal differ. -/
theorem TablePlan.subtotals_lookUp {labels : DirectiveLabels} {w w' : Worksheet}
    {rows : List (List String)} {plan : TablePlan} {s : Subtotal}
    (h : compileTable labels w rows = .ok (w', plan)) (hs : s ∈ plan.subtotals labels) :
    ∃ d ∈ plan.directivesOf .subtotal, ∃ group sum, d.Marks labels group sum s.spec ∧
      (∀ c ∈ plan.columns, c.templateCol = sum →
        s.sumColumn = c.renderLabel ∧
        (s.sumField = c.dataField ↔ trimText (plan.firstFieldText sum) = plan.fieldText sum) ∧
        ∀ label first last,
          (s.summary label first last).field? c.dataField = some (.formula (s.formula first last)) ↔
            trimText (plan.firstFieldText sum) = plan.fieldText sum) ∧
      ∀ c ∈ plan.columns, c.templateCol = group →
        (s.groupField = c.dataField ↔
          trimText (plan.firstFieldText group) = plan.fieldText group) ∧
        (s.groupField ≠ s.sumField → ∀ label first last,
          (s.summary label first last).field? c.dataField = some (.text label) ↔
            trimText (plan.firstFieldText group) = plan.fieldText group) := by
  obtain ⟨d, hd, group, sum, hmarks, heq⟩ := exists_marks hs
  have hgroup : s.groupField = trimText (plan.firstFieldText group) := by rw [heq]
  have hsum : s.sumField = trimText (plan.firstFieldText sum) := by rw [heq]
  have hletters : s.sumColumn = columnName (sum - 1) := by rw [heq]
  refine ⟨d, hd, group, sum, hmarks, ?_, ?_⟩
  · rintro c hc rfl
    refine ⟨hletters, ?_, fun label first last => ?_⟩
    · rw [dataField_of_compileTable h hc, hsum]
    · rw [s.field?_summary_eq_formula_iff, dataField_of_compileTable h hc, hsum]
  · rintro c hc rfl
    refine ⟨?_, fun hne label first last => ?_⟩
    · rw [dataField_of_compileTable h hc, hgroup]
    · rw [Subtotal.field?_summary_eq_label_iff hne, dataField_of_compileTable h hc, hgroup]

/-- The sales are summed in the column of amounts and told apart by the column of regions. -/
theorem TablePlan.subtotals_lookUp_sales :
    salesSubtotal.sumColumn = amountColumn.renderLabel ∧
      (∀ label first last, (salesSubtotal.summary label first last).field? amountColumn.dataField =
        some (.formula (salesSubtotal.formula first last))) ∧
      ∀ label first last, (salesSubtotal.summary label first last).field? regionColumn.dataField =
        some (.text label) := by
  obtain ⟨d, hd, group, sum, hmarks, hsum, hgroup⟩ := TablePlan.subtotals_lookUp
    compileTable_salesTemplate (s := salesSubtotal) (by rw [sumsBy_salesPlan.subtotals]; simp)
  obtain rfl : d = ⟨.subtotal, 3, ["Subtotal", "Group", "Sum"]⟩ := by
    simpa [salesPlan, TablePlan.directivesOf] using hd
  obtain rfl : 1 = group := Option.some.inj hmarks.group
  obtain ⟨rfl, -⟩ : 2 = sum ∧ _ := Prod.mk.inj (Option.some.inj hmarks.sum)
  obtain ⟨hletters, -, hformula⟩ := hsum amountColumn (by simp [salesPlan]) rfl
  obtain ⟨-, hlabel⟩ := hgroup regionColumn (by simp [salesPlan]) rfl
  exact ⟨hletters, fun label first last => (hformula label first last).2 rfl,
    fun label first last => (hlabel (by decide) label first last).2 rfl⟩

/-- The rows of a template that writes the field of the amounts with a blank behind it. -/
def paddedRows : List (List String) :=
  [["Header", "Region", "Amount"], ["DataField", "region", "amount "], ["Data", "", ""],
    ["Subtotal", "Group", "Sum"]]

/-- A blank behind the name of a field is enough to lose the sums: the summaries have them in another
field than the one that the marked column looks up. -/
theorem paddedRows_lose_sums :
    ∃ (w : Worksheet) (plan : TablePlan), ∃ s ∈ plan.subtotals .english, ∃ c ∈ plan.columns,
      compileTable .english { name := "Sales" } paddedRows = .ok (w, plan) ∧
      (∃ d ∈ plan.directivesOf .subtotal, d.Marks .english 1 c.templateCol s.spec) ∧
      s.sumField ≠ c.dataField ∧
      ∀ label first last, (s.summary label first last).field? c.dataField = none := by
  have hcompile : ∃ w, compileTable .english { name := "Sales" } paddedRows = .ok (w,
      { columns := [{ regionColumn with samples := [⟨2, none, 0, none⟩] },
          { amountColumn with dataField := "amount ", samples := [⟨2, none, 0, none⟩] }]
        directives := [⟨.header, 0, ["Header", "Region", "Amount"]⟩,
          ⟨.dataField, 1, ["DataField", "region", "amount "]⟩, ⟨.data, 2, ["Data", "", ""]⟩,
          ⟨.subtotal, 3, ["Subtotal", "Group", "Sum"]⟩]
        firstRow := some 1 }) := ⟨_, rfl⟩
  obtain ⟨w, hcompile⟩ := hcompile
  refine ⟨w, _, salesSubtotal, by decide +kernel, { amountColumn with
    dataField := "amount ", samples := [⟨2, none, 0, none⟩] }, by simp, hcompile,
    ⟨⟨.subtotal, 3, ["Subtotal", "Group", "Sum"]⟩, by simp [TablePlan.directivesOf], rfl, rfl⟩,
    by decide, fun label first last => ?_⟩
  rw [Subtotal.field?_summary]
  rfl

end SheetPress
