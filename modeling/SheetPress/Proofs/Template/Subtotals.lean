import SheetPress.Proofs.Coord.Columns
import SheetPress.Proofs.Evaluation.Places
import SheetPress.Proofs.Formula.Spelling
import SheetPress.Proofs.Template.Grouping
import SheetPress.Proofs.Template.Rows

/-!
# What subtotals count

The formula of a subtotal is made from positions in a list, before any of its rows is there.  On the
written sheet it covers the cells of its own records, and of no others.

* `Subtotal.parseFormula_formula` — the text of a subtotal is read as an aggregate of a range.
* `inputs_column` — what an aggregate takes from records that stand below each other.
* `TablePlan.SumsBy.group_spec`, `total_spec` — the subtotal of a group, and the grand total.
* `TableJob.subtotals_count` — each subtotal takes the numbers of its own records.
-/

namespace SheetPress

/-! ## The text of a subtotal -/

section Column

variable {col row : Nat}

theorem written_columnName (hpos : 0 < row) (hlt : row < indexLimit) :
    CellRef.Written ⟨columnName col, row, false, false⟩ where
  column_ne_nil := by simpa [columnName] using columnLetters_ne_nil col
  isUpper := by simpa [columnName] using @isUpper_of_mem_columnLetters col
  row_pos := hpos
  row_lt := hlt

theorem place_columnName (col row : Nat) :
    CellRef.place ⟨columnName col, row, false, false⟩ = ⟨row - 1, col⟩ := by
  rw [CellRef.place, Coord.ofLetters, columnName, String.toList_ofList, columnIndex_columnLetters]

end Column

theorem isFunctionName_subtotal : IsFunctionName "SUBTOTAL" where
  begins := ⟨'S', _, rfl, by decide⟩
  continues := forall_mem_of_all (by decide)
  isLower_eq_false := forall_mem_of_all (by decide)
  not_boolean := by decide

/-- An aggregate by its code over a range, as an expression. -/
def subtotalExpr (code : Nat) (first last : CellRef) : Expr :=
  .call "SUBTOTAL" [.literal (.number (Decimal.toFloat ⟨code, 0⟩)), .range none first last]

/-- The text of a subtotal is read as the aggregate of a range of its column. -/
theorem Subtotal.parseFormula_formula {s : Subtotal} {col first last : Nat}
    (hcol : s.sumColumn = columnName col) (hpos : 0 < first) (hle : first ≤ last)
    (hlt : last < indexLimit) :
    parseFormula (s.formula first last) = .ok (subtotalExpr s.spec.code
      ⟨columnName col, first, false, false⟩ ⟨columnName col, last, false, false⟩) := by
  have hfirst := @written_columnName col _ hpos (hle.trans_lt hlt)
  have hlast := @written_columnName col _ (hpos.trans_le hle) hlt
  have hcode := spells_natural s.spec.code
  have hrange := (@spells_range none _ _ hfirst hlast).spells
  have hcall := spells_call isFunctionName_subtotal
    (.cons (hcode.loosen (Nat.zero_le _)) (.cons (hrange.loosen (Nat.zero_le _)) .nil))
  refine Eq.trans (congrArg parseFormula (String.toList_inj.1 ?_)) hcall.parseFormula_eq.2
  delta Subtotal.formula
  simp [hcol, CellRef.text, dollar, natText, sheetLead]

/-- A cell with the text of a subtotal is passed over by other subtotals. -/
theorem cellInput?_of_parseFormula {cell : Cell} {formula : String} {code : Nat}
    {first last : CellRef} (hformula : cell.formula = some formula)
    (hparse : parseFormula formula = .ok (subtotalExpr code first last)) :
    cellInput? true cell = none := by
  have hholds : holdsSubtotal cell = true := by
    rw [holdsSubtotal, hformula, Option.map_some, hparse]
    rfl
  rw [cellInput?, hholds]
  simp

/-! ## What an aggregate takes from a column -/

/-- The inputs that records give an aggregate through their numbers in a field. -/
def numberInputs (xs : List Float) : List AggregateInput := xs.map fun x => ⟨.number x, true⟩

/-- The cell of each record in some column gives a subtotal its number, if the record has one, and is
passed over if it has none. -/
def CountedIn (g : Grid) (firstRow col : Nat) (field : String) (records : List Record) : Prop :=
  ∀ i record, records[i]? = some record → ∃ cell, g.get? ⟨firstRow + i, col⟩ = some cell ∧
    cellInput? true cell = (record.number? field).map fun x => ⟨.number x, true⟩

section Inputs

variable {g : Grid} {firstRow col : Nat} {field : String} {records before part after : List Record}

/-- Some of the records, which stand further down. -/
theorem CountedIn.middle (h : CountedIn g firstRow col field (before ++ part ++ after)) :
    CountedIn g (firstRow + before.length) col field part := by
  intro i record hrecord
  have hi : i < part.length := (List.getElem?_eq_some_iff.1 hrecord).1
  rw [Nat.add_assoc]
  refine h (before.length + i) record ?_
  rw [List.append_assoc, List.getElem?_append_right (by omega), Nat.add_sub_cancel_left,
    List.getElem?_append_left hi, hrecord]

/-- What the cells below each other give is what the records give, one after another. -/
theorem CountedIn.filterMap_eq (h : CountedIn g firstRow col field records) :
    (((List.range' firstRow records.length).map fun row => g.get? ⟨row, col⟩).filterMap id).filterMap
      (cellInput? true) = numberInputs (records.filterMap (Record.number? field)) := by
  induction records generalizing firstRow with
  | nil => rfl
  | cons record records ih =>
    have hrest : CountedIn g (firstRow + 1) col field records := fun i r hr => by
      rw [show firstRow + 1 + i = firstRow + (i + 1) by omega]
      exact h (i + 1) r hr
    obtain ⟨cell, hcell, hinput⟩ := h 0 record rfl
    rw [Nat.add_zero] at hcell
    rw [List.length_cons, List.range'_succ, List.map_cons, hcell,
      List.filterMap_cons_some (f := id) rfl]
    cases hnumber : record.number? field with
    | none =>
      rw [hnumber] at hinput
      rw [List.filterMap_cons_none hinput, List.filterMap_cons_none hnumber, ih hrest]
    | some x =>
      rw [hnumber] at hinput
      rw [List.filterMap_cons_some hinput, List.filterMap_cons_some hnumber, ih hrest]
      rfl

/-- A subtotal over a range of one column takes the numbers of the records on its rows. -/
theorem inputs_column (h : CountedIn g firstRow col field (before ++ part ++ after))
    (hne : part ≠ []) {scope : Scope} (hscope : scope.here = g) {first last : Nat}
    (hfirst : first = firstRow + before.length + 1)
    (hlast : last = firstRow + before.length + part.length) :
    aggregateInputs true (Expr.evalArguments scope
      [.range none ⟨columnName col, first, false, false⟩ ⟨columnName col, last, false, false⟩]) =
      .ok (numberInputs (part.filterMap (Record.number? field))) := by
  have hlength := List.length_pos_of_ne_nil hne
  have hrows : between (min (first - 1) (last - 1)) (max (first - 1) (last - 1)) =
      List.range' (firstRow + before.length) part.length := by
    rw [between, Nat.min_eq_left (by omega), Nat.max_eq_right (by omega)]
    congr 1 <;> omega
  have hcols : between (min col col) (max col col) = [col] := by simp [between]
  have hvisit : (Expr.range none ⟨columnName col, first, false, false⟩
      ⟨columnName col, last, false, false⟩).visit? scope =
      some ((List.range' (firstRow + before.length) part.length).map fun row =>
        g.get? ⟨row, col⟩) := by
    refine congrArg some ?_
    show scope.here.inRectangle _ _ = _
    rw [hscope, Grid.inRectangle, place_columnName, place_columnName, hrows, hcols]
    exact List.map_eq_flatMap.symm
  rw [Expr.evalArguments, Expr.evalArguments, hvisit]
  show Except.ok _ = _
  rw [h.middle.filterMap_eq, List.append_nil]

end Inputs

theorem getElem?_behind {all front : List Record} {record : Record} {rest : List Record}
    (h : all = front ++ record :: rest) : all[front.length]? = some record := by
  rw [h, List.getElem?_append_right le_rfl, Nat.sub_self]
  rfl

/-! ## Columns that are grouped and summed -/

/-- A subtotal row marks the column to group by and the one to sum over, each by the first cell of its
kind. -/
structure DirectiveRow.Marks (labels : DirectiveLabels) (d : DirectiveRow) (group sum : Nat)
    (spec : SubtotalSpec) : Prop where
  group : d.places.find? (fun col => trimText (d.text col) == labels.groupMarker) = some group
  sum : (d.places.findSome? fun col =>
    (labels.subtotalSpec? (d.text col)).map fun spec => (col, spec)) = some (sum, spec)

theorem DirectiveRow.Marks.subtotal?_eq {labels : DirectiveLabels} {d : DirectiveRow}
    {group sum : Nat} {spec : SubtotalSpec} (h : d.Marks labels group sum spec)
    (fields : DirectiveRow) :
    DirectiveRow.subtotal? labels fields d = some ⟨trimText (fields.text group), trimText (fields.text sum),
      columnName (sum - 1), spec⟩ := by
  rw [DirectiveRow.subtotal?, h.group, h.sum]
  rfl

/-- One subtotal row of a plan resolves.  It groups by one column of the table and sums over another;
the summed one shows its field as it is. -/
structure TablePlan.SumsBy (labels : DirectiveLabels) (plan : TablePlan) (s : Subtotal)
    (group sum : TableColumn) : Prop where
  subtotals : plan.subtotals labels = [s]
  marks : ∃ d ∈ plan.directivesOf .subtotal, ∃ spec,
    d.Marks labels group.templateCol sum.templateCol spec
  group_mem : group ∈ plan.columns
  sum_mem : sum ∈ plan.columns
  groupField : group.dataField = s.groupField
  sumField : sum.dataField = s.sumField
  field_ne : s.groupField ≠ s.sumField
  plain : sum.isTemplate = false
  samples : ∀ sample ∈ sum.samples, sample.formula = none

/-- The letters in the text of a subtotal are those of the column that is written. -/
theorem TablePlan.SumsBy.sumColumn_eq {labels : DirectiveLabels} {plan : TablePlan} {s : Subtotal}
    {group sum : TableColumn} (h : plan.SumsBy labels s group sum) :
    s.sumColumn = sum.renderLabel := by
  obtain ⟨d, hd, spec, hmarks⟩ := h.marks
  have hall := h.subtotals
  unfold TablePlan.subtotals at hall
  split at hall
  · cases hall
  · next fields _ _ =>
    have hmem := List.mem_filterMap.2 ⟨d, hd, hmarks.subtotal?_eq fields⟩
    rw [hall] at hmem
    rw [← List.mem_singleton.1 hmem]
    rfl

/-! ## Cells of records -/

namespace TableJob

variable {job : TableJob} {first last : StyleRegistry} {position : Nat} {record : Record}
  {column : TableColumn} {cell : Cell}

/-- The cell of a data record gives an aggregate its number where nothing else decides on it. -/
theorem Filled.cellInput?_eq (h : job.Filled first last position record column cell)
    (hkind : record.isSubtotal = false) (hplain : column.isTemplate = false)
    (hsamples : ∀ sample ∈ column.samples, sample.formula = none) {x : Float}
    (hfield : record.field? column.dataField = some (.number x)) :
    cellInput? true cell = some ⟨.number x, true⟩ := by
  obtain ⟨sample, content, style, hsample, hcontent, -, rfl⟩ := h
  rw [recordContent, hkind, hsamples sample (List.mem_of_getElem? hsample), hplain, hfield]
    at hcontent
  obtain rfl := Except.ok.inj hcontent
  rfl

/-- The cell of a subtotal holds the formula of its record. -/
theorem Filled.formula_eq (h : job.Filled first last position record column cell)
    (hkind : record.isSubtotal = true) {formula : String}
    (hfield : record.field? column.dataField = some (.formula formula)) :
    cell.formula = some formula := by
  obtain ⟨sample, content, style, hsample, hcontent, -, rfl⟩ := h
  rw [recordContent, hkind, hfield] at hcontent
  obtain rfl := Except.ok.inj hcontent
  rfl

end TableJob

/-- The cell at a place holds a subtotal, and over its cells an aggregate that passes over other
subtotals takes exactly some numbers. -/
def Worksheet.SubtotalOver (w : Worksheet) (place : Coord) (code : Nat) (numbers : List Float) :
    Prop :=
  ∃ formula first last, w.formula? place = some formula ∧
    parseFormula formula = .ok (subtotalExpr code first last) ∧
    ∀ scope : Scope, scope.here = w.grid →
      aggregateInputs true (Expr.evalArguments scope [.range none first last]) =
        .ok (numberInputs numbers)

/-- A subtotal over the rows of some of the records takes their numbers. -/
theorem CountedIn.subtotalOver {w : Worksheet} {s : Subtotal} {firstRow col : Nat}
    {all before part after : List Record} (h : CountedIn w.grid firstRow col s.sumField all)
    (hall : all = before ++ part ++ after) (hne : part ≠ []) (hcol : s.sumColumn = columnName col)
    {place : Coord} {first last : Nat}
    (hformula : w.formula? place = some (s.formula first last))
    (hfirst : first = firstRow + before.length + 1)
    (hlast : last = firstRow + before.length + part.length) (hlt : last < indexLimit) :
    w.SubtotalOver place s.spec.code (part.filterMap (Record.number? s.sumField)) := by
  have hlength := List.length_pos_of_ne_nil hne
  exact ⟨_, _, _, hformula, Subtotal.parseFormula_formula hcol (by omega) (by omega) hlt,
    fun _ hscope => inputs_column (hall ▸ h) hne hscope hfirst hlast⟩

/-! ## The written sheet -/

section Written

variable {labels : DirectiveLabels} {job : TableJob} {s : Subtotal} {group sum : TableColumn}
  {sheet : Worksheet} {styles : StyleRegistry} {s' : TableState}

namespace TablePlan.SumsBy

section Cells

variable {all : List Record} {i : Nat}

theorem formulasMarked (hsums : job.plan.SumsBy labels s group sum) : sum.FormulasMarked := by
  intro sample hsample formula hformula
  rw [hsums.samples sample hsample] at hformula
  cases hformula

/-- The cell of a data record in the summed column gives its number. -/
theorem cell_of_number (hsums : job.plan.SumsBy labels s group sum)
    (hnodup : (job.plan.columns.map (·.renderCol)).Nodup)
    (h : job.writeRows all { sheet, styles } = ⟨s', none⟩) {r : Record} (hat : all[i]? = some r)
    (hkind : r.isSubtotal = false) {x : Float} (hx : r.field? s.sumField = some (.number x)) :
    ∃ cell, s'.sheet.cell? (job.place i sum) = some cell ∧
      cellInput? true cell = some ⟨.number x, true⟩ := by
  rw [← hsums.sumField] at hx
  have hmarked : r.MarkedAt sum.dataField := fun _ hformula => by
    rw [hx] at hformula
    cases hformula
  obtain ⟨cell, hcell, hfilled⟩ := TableJob.filled_of_writeRows hnodup h hat hsums.sum_mem
    ⟨hmarked, hsums.formulasMarked⟩
  exact ⟨cell, hcell, hfilled.cellInput?_eq hkind hsums.plain hsums.samples hx⟩

/-- The cell of a summary in the summed column holds its formula. -/
theorem cell_of_summary (hsums : job.plan.SumsBy labels s group sum)
    (hnodup : (job.plan.columns.map (·.renderCol)).Nodup)
    (h : job.writeRows all { sheet, styles } = ⟨s', none⟩) {label : String} {first last : Nat}
    (hat : all[i]? = some (s.summary label first last)) :
    ∃ cell, s'.sheet.cell? (job.place i sum) = some cell ∧
      cell.formula = some (s.formula first last) := by
  have hmarked := s.formulasMarked_summary label first last
  obtain ⟨cell, hcell, hfilled⟩ := TableJob.filled_of_writeRows hnodup h hat hsums.sum_mem
    ⟨hmarked sum.dataField, hsums.formulasMarked⟩
  exact ⟨cell, hcell, hfilled.formula_eq (s.isSubtotal_summary ..)
    (hsums.sumField ▸ s.field?_sumField_summary ..)⟩

end Cells

section Records

variable {records : List Record} (hsums : job.plan.SumsBy labels s group sum)
  (hnodup : (job.plan.columns.map (·.renderCol)).Nodup) (hne : records ≠ [])
  (hdata : ∀ r ∈ records, r.isSubtotal = false ∧ ∃ x, r.field? s.sumField = some (.number x))
  (hfits : job.firstRow + (s.apply (job.firstRow + 1) records).length < indexLimit)
  (h : job.writeRows (s.apply (job.firstRow + 1) records) { sheet, styles } = ⟨s', none⟩)

include hsums hnodup hne hdata hfits h

/-- Subtotals count the rows of records and pass over their own. -/
theorem countedIn : CountedIn s'.sheet.grid job.firstRow sum.renderCol s.sumField
    (s.apply (job.firstRow + 1) records) := by
  intro i r hat
  rcases Subtotal.mem_apply hne (List.mem_of_getElem? hat) with
    ⟨member, hmember, j, rfl⟩ | ⟨label, first, last, rfl, hfirst, hle, hlast⟩
  · obtain ⟨hkind, x, hx⟩ := hdata member hmember
    have hfield : Record.field? { member with sample := some j } s.sumField = some (.number x) := hx
    obtain ⟨cell, hcell, hinput⟩ := hsums.cell_of_number hnodup h hat hkind hfield
    refine ⟨cell, hcell, ?_⟩
    rw [hinput, Record.number?, hfield]
    rfl
  · obtain ⟨cell, hcell, hformula⟩ := hsums.cell_of_summary hnodup h hat
    refine ⟨cell, hcell, ?_⟩
    rw [s.number?_summary]
    exact cellInput?_of_parseFormula hformula (Subtotal.parseFormula_formula
      hsums.sumColumn_eq (by omega) hle (by omega))

/-- A summary over the rows of some of the records is written with its label, and its subtotal takes
their numbers. -/
theorem summary_spec {before part after : List Record}
    (hrows : s.apply (job.firstRow + 1) records = before ++ part ++ after) (hpart : part ≠ [])
    {i : Nat} {label : String} {first last : Nat}
    (hat : (s.apply (job.firstRow + 1) records)[i]? = some (s.summary label first last))
    (hfirst : first = job.firstRow + before.length + 1)
    (hlast : last = job.firstRow + before.length + part.length) :
    s.LabelledAt (s.apply (job.firstRow + 1) records) i label ∧
      s'.sheet.SubtotalOver (job.place i sum) s.spec.code
        (part.filterMap (Record.number? s.sumField)) := by
  obtain ⟨cell, hcell, hformula⟩ := hsums.cell_of_summary hnodup h hat
  have hlength := congrArg List.length hrows
  rw [List.length_append, List.length_append] at hlength
  have hcounted := hsums.countedIn hnodup hne hdata hfits h
  refine ⟨Subtotal.labelledAt_summary hsums.field_ne hat,
    hcounted.subtotalOver hrows hpart hsums.sumColumn_eq ?_ hfirst hlast (by omega)⟩
  rwa [Worksheet.formula?, hcell]

/-- Behind the records of a group stands the subtotal over them. -/
theorem group_spec {before after : List (String × List Record)} {key : String}
    {members : List Record}
    (hgroups : groupsOf s.groupField records = before ++ (key, members) :: after) :
    s.LabelledAt (s.apply (job.firstRow + 1) records) (rowsOf before + members.length)
        (key ++ " " ++ s.spec.groupSuffix) ∧
      s'.sheet.SubtotalOver (job.place (rowsOf before + members.length) sum) s.spec.code
        (members.filterMap (Record.number? s.sumField)) := by
  have hmembers : (numberSamples members).length ≠ 0 := by
    have hmem : (key, members) ∈ groupsOf s.groupField records := by simp [hgroups]
    rw [length_numberSamples]
    exact (List.length_pos_of_ne_nil (ne_nil_of_mem_groupsOf hmem)).ne'
  obtain ⟨rest, hrows⟩ := s.exists_apply_eq (job.firstRow + 1) hne hgroups
  have hat := getElem?_behind hrows
  rw [List.length_append, Subtotal.length_groupRows, length_numberSamples] at hat
  have hspec := hsums.summary_spec hnodup hne hdata hfits h hrows
    (fun hnil => hmembers (congrArg List.length hnil)) hat
    (by rw [Subtotal.length_groupRows]; omega)
    (by rw [Subtotal.length_groupRows, length_numberSamples]; omega)
  rwa [numbers_numberSamples] at hspec

/-- Behind all groups stands the grand total. -/
theorem total_spec :
    s.LabelledAt (s.apply (job.firstRow + 1) records) (rowsOf (groupsOf s.groupField records))
        s.spec.totalLabel ∧
      s'.sheet.SubtotalOver (job.place (rowsOf (groupsOf s.groupField records)) sum) s.spec.code
        ((s.apply (job.firstRow + 1) records).filterMap (Record.number? s.sumField)) := by
  have hpos := Subtotal.rowsOf_groupsOf_pos s.groupField hne
  have hrows : s.apply (job.firstRow + 1) records =
      [] ++ s.groupRows (job.firstRow + 1) (groupsOf s.groupField records) ++ [_] :=
    s.apply_eq (job.firstRow + 1) hne
  have hat := getElem?_behind hrows
  rw [List.nil_append, Subtotal.length_groupRows] at hat
  have hspec := hsums.summary_spec hnodup hne hdata hfits h hrows
    (List.ne_nil_of_length_pos (by rwa [Subtotal.length_groupRows])) hat rfl
    (by rw [List.length_nil, Subtotal.length_groupRows]; omega)
  rwa [s.numbers_groupRows, ← s.numbers_apply (job.firstRow + 1) hne] at hspec

end Records

end TablePlan.SumsBy

end Written

/-- Subtotals count exactly their own records.  Let a plan that was read from a template have one
subtotal row that resolves, and let the table be written from data records that each carry a number
in the summed field, on rows whose numbers fit an index.  On the written sheet:

* behind the records of each group, which are those with its key, stands a row with the name of the
  group, and its subtotal takes the numbers of these records, in order;
* behind all groups stands the grand total, which takes the numbers of all rows, in order;
* these are the numbers of the records, each of them once. -/
theorem TableJob.subtotals_count {labels : DirectiveLabels} {template left sheet : Worksheet}
    {rows : List (List String)} {job : TableJob} {s : Subtotal} {group sum : TableColumn}
    {records out : List Record} {styles : StyleRegistry} {s' : TableState}
    (hplan : compileTable labels template rows = .ok (left, job.plan))
    (hsums : job.plan.SumsBy labels s group sum) (hne : records ≠ [])
    (hdata : ∀ r ∈ records, r.isSubtotal = false ∧ ∃ x, r.field? s.sumField = some (.number x))
    (hout : applySubtotals (job.plan.subtotals labels) (job.firstRow + 1) records = out)
    (hfits : job.firstRow + out.length < indexLimit)
    (h : job.writeRows out { sheet := reserveRows job.firstRow out.length sheet, styles } =
      ⟨s', none⟩) :
    (∀ before key members after,
      groupsOf s.groupField records = before ++ (key, members) :: after →
        members = records.filter (Record.key s.groupField · == key) ∧
        s.LabelledAt out (rowsOf before + members.length) (key ++ " " ++ s.spec.groupSuffix) ∧
        s'.sheet.SubtotalOver (job.place (rowsOf before + members.length) sum) s.spec.code
          (members.filterMap (Record.number? s.sumField))) ∧
    (s.LabelledAt out (rowsOf (groupsOf s.groupField records)) s.spec.totalLabel ∧
      s'.sheet.SubtotalOver (job.place (rowsOf (groupsOf s.groupField records)) sum) s.spec.code
        (out.filterMap (Record.number? s.sumField))) ∧
    (out.filterMap (Record.number? s.sumField)).Perm
      (records.filterMap (Record.number? s.sumField)) := by
  have happly : out = s.apply (job.firstRow + 1) records := by
    rw [← hout, hsums.subtotals]
    rfl
  subst happly
  have hnodup := (planRead_of_compileTable hplan).columns.nodup_renderCol
  refine ⟨fun before key members after hgroups => ?_, hsums.total_spec hnodup hne hdata hfits h,
    s.perm_numbers_apply _ hne⟩
  have hmem : (key, members) ∈ groupsOf s.groupField records := by simp [hgroups]
  exact ⟨eq_filter_of_mem_groupsOf hmem, hsums.group_spec hnodup hne hdata hfits h hgroups⟩

/-! ## A table of sales -/

/-- The cells of a template: a table with a region and an amount, which is summed by region. -/
def salesCells : List (Coord × Cell) :=
  [(⟨0, 0⟩, .ofValue (.text "Header")), (⟨0, 1⟩, .ofValue (.text "Region")),
    (⟨0, 2⟩, .ofValue (.text "Amount")), (⟨1, 0⟩, .ofValue (.text "DataField")),
    (⟨1, 1⟩, .ofValue (.text "region")), (⟨1, 2⟩, .ofValue (.text "amount")),
    (⟨2, 0⟩, .ofValue (.text "Data")), (⟨2, 2⟩, { style := 2 }),
    (⟨3, 0⟩, .ofValue (.text "Subtotal")), (⟨3, 1⟩, .ofValue (.text "Group")),
    (⟨3, 2⟩, .ofValue (.text "Sum"))]

/-- The template with these cells. -/
def salesTemplate : Worksheet where
  name := "Sales"
  grid := salesCells.foldl (fun grid (place, cell) => grid.set place cell) {}

/-- The column of regions. -/
def regionColumn : TableColumn where
  templateCol := 1
  header := "Region"
  dataField := "region"
  samples := [⟨2, none, 0, none⟩]

/-- The column of amounts. -/
def amountColumn : TableColumn where
  templateCol := 2
  header := "Amount"
  dataField := "amount"
  samples := [⟨2, none, 2, none⟩]

/-- The plan of the table. -/
def salesPlan : TablePlan where
  columns := [regionColumn, amountColumn]
  directives := [⟨.header, 0, ["Header", "Region", "Amount"]⟩,
    ⟨.dataField, 1, ["DataField", "region", "amount"]⟩, ⟨.data, 2, ["Data"]⟩,
    ⟨.subtotal, 3, ["Subtotal", "Group", "Sum"]⟩]
  firstRow := some 1

/-- What its subtotal row asks for. -/
def salesSubtotal : Subtotal := ⟨"region", "amount", "B", ⟨9, "Sum", "Total", "Grand Total"⟩⟩

/-- A sale in a region. -/
def sale (region : String) (amount : Float) : Record :=
  (({} : Record).withField "region" (.text region)).withField "amount" (.number amount)

/-- Sales in two regions by turns. -/
def salesRecords : List Record := [sale "North" 3, sale "South" 4, sale "North" 5]

/-- The table of the template, with the first record in its second row. -/
def salesJob : TableJob := ⟨salesPlan, 1, .standard⟩

theorem textRows_salesTemplate : salesTemplate.textRows =
    [["Header", "Region", "Amount"], ["DataField", "region", "amount"], ["Data"],
      ["Subtotal", "Group", "Sum"]] :=
  rfl

theorem compileTable_salesTemplate : compileTable .english salesTemplate
    (fillAllMerged salesTemplate.textRows salesTemplate.merged) = .ok (salesTemplate, salesPlan) := by
  rw [textRows_salesTemplate]
  rfl

theorem sumsBy_salesPlan :
    salesPlan.SumsBy .english salesSubtotal regionColumn amountColumn where
  subtotals := by decide +kernel
  marks := ⟨⟨.subtotal, 3, ["Subtotal", "Group", "Sum"]⟩, by simp [salesPlan, TablePlan.directivesOf],
    _, ⟨rfl, rfl⟩⟩
  group_mem := by simp [salesPlan]
  sum_mem := by simp [salesPlan]
  groupField := rfl
  sumField := rfl
  field_ne := by decide
  plain := rfl
  samples := by decide

theorem number_salesRecords : ∀ r ∈ salesRecords, r.isSubtotal = false ∧
    ∃ x, r.field? salesSubtotal.sumField = some (.number x) := by
  have hsale : ∀ region amount, (sale region amount).isSubtotal = false ∧
      ∃ x, (sale region amount).field? salesSubtotal.sumField = some (.number x) :=
    fun region amount => ⟨rfl, amount, by rw [sale, Record.field?_withField]; rfl⟩
  simp only [salesRecords, List.forall_mem_cons]
  exact ⟨hsale _ _, hsale _ _, hsale _ _, nofun⟩

/-- The sales of the north are summed in the third row of the table, those of the south in the fifth,
and all of them in the last. -/
theorem TableJob.subtotals_count_sales :
    ∃ s', salesJob.writeRows (applySubtotals (salesPlan.subtotals .english) 2 salesRecords)
        { sheet := reserveRows 1 6 (salesPlan.strip salesTemplate), styles := .initial } =
          ⟨s', none⟩ ∧
      s'.sheet.SubtotalOver ⟨3, 1⟩ 9 [3, 5] ∧ s'.sheet.SubtotalOver ⟨5, 1⟩ 9 [4] ∧
      s'.sheet.SubtotalOver ⟨6, 1⟩ 9 [3, 5, 4] := by
  have hruns : ∃ s', salesJob.writeRows
      (applySubtotals (salesPlan.subtotals .english) 2 salesRecords)
      { sheet := reserveRows 1 6 (salesPlan.strip salesTemplate), styles := .initial } =
        ⟨s', none⟩ := ⟨_, rfl⟩
  obtain ⟨s', hrun⟩ := hruns
  obtain ⟨hgroups, htotal, -⟩ := TableJob.subtotals_count compileTable_salesTemplate
    sumsBy_salesPlan (by simp [salesRecords]) number_salesRecords rfl (by decide) hrun
  refine ⟨s', hrun, ?_, ?_, ?_⟩
  · exact (hgroups [] "North" _ _ rfl).2.2
  · exact (hgroups [_] "South" _ _ rfl).2.2
  · exact htotal.2

end SheetPress
