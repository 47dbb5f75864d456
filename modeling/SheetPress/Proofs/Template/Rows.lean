import SheetPress.Proofs.Template.Colors
import SheetPress.Proofs.Template.Content
import SheetPress.Proofs.Template.Plan

/-!
# Records on their rows

Each record is written on a row of its own, cell by cell.  `TableJob.Filled` says what its cell in a
column is; it speaks of the record, its sample and the column alone.

* `TableJob.writeCell_spec`, `writeCells_spec`, `writeRecords_filled` — a cell, a row, and all rows:
  what is filled, and that nothing else changes.
* `TableJob.writeRows_fills` — every record is complete on its row, and undisturbed.
-/

namespace SheetPress

/-- The formulas of the samples of a column have their leading `=`. -/
def TableColumn.FormulasMarked (column : TableColumn) : Prop :=
  ∀ sample ∈ column.samples, ∀ formula, sample.formula = some formula →
    formula.startsWith "=" = true

namespace TableJob

/-- The place of the cell of the record at a position in a column. -/
def place (job : TableJob) (position : Nat) (column : TableColumn) : Coord :=
  ⟨job.firstRow + position, column.renderCol⟩

/-- The cell of the record at a position in a column is what the record, the column and the sample
that the record follows make it.  The style of a data record is the resolved one, on the way from the
first style registry to the last. -/
def Filled (job : TableJob) (first last : StyleRegistry) (position : Nat) (record : Record)
    (column : TableColumn) (cell : Cell) : Prop :=
  ∃ sample content style,
    column.samples[record.sample.getD position % column.samples.length]? = some sample ∧
    recordContent job.functions (job.firstRow + position) column sample record = .ok content ∧
    (if record.isSubtotal then style = 0
      else ResolvedStyle first last column sample.style record style) ∧
    cell = content.inStyle style

variable {job : TableJob} {first : StyleRegistry} {records : List Record} {s s' : TableState}

theorem Filled.mono {last last' : StyleRegistry} {position : Nat} {record : Record}
    {column : TableColumn} {cell : Cell} (h : job.Filled first last position record column cell)
    (hlast : last.Grows last') : job.Filled first last' position record column cell := by
  obtain ⟨sample, content, style, hsample, hcontent, hstyle, hcell⟩ := h
  refine ⟨sample, content, style, hsample, hcontent, ?_, hcell⟩
  split at hstyle
  · next hkind => rwa [if_pos hkind]
  · next hkind =>
    rw [if_neg hkind]
    exact hstyle.mono hlast

/-! ## What is not written -/

/-- Writing a cell leaves the other cells alone, also when it fails. -/
theorem cell?_writeCell_of_ne (position : Nat) (record : Record) (column : TableColumn)
    (s : TableState) {p : Coord} (hp : p ≠ job.place position column) :
    (job.writeCell position record column s).state.sheet.cell? p = s.sheet.cell? p := by
  unfold writeCell
  dsimp only
  split
  · rfl
  · next sample hsample =>
    split
    · exact (Worksheet.cell?_setStyle_eq ..).trans
        ((if_neg hp).trans (cell?_writeSubtotal_of_ne s.sheet hp))
    · split
      · rfl
      · next sheet hwrite =>
        have hkept := cell?_writeContent_of_ne hp hwrite
        split
        · exact hkept
        · exact (Worksheet.cell?_setStyle_eq ..).trans ((if_neg hp).trans hkept)

theorem cell?_writeCells_of_ne (position : Nat) (record : Record) (columns : List TableColumn)
    (s : TableState) {p : Coord} (hp : ∀ column ∈ columns, p ≠ job.place position column) :
    (job.writeCells position record columns s).state.sheet.cell? p = s.sheet.cell? p := by
  induction columns generalizing s with
  | nil => rfl
  | cons column columns ih =>
    have hfirst := cell?_writeCell_of_ne position record column s (hp column (List.mem_cons_self ..))
    rw [writeCells]
    split
    · next s₁ hcell =>
      rw [hcell] at hfirst
      exact (ih s₁ fun c hc => hp c (List.mem_cons_of_mem _ hc)).trans hfirst
    · exact hfirst

theorem cell?_writeRow_of_ne (position : Nat) (record : Record) (s : TableState) {p : Coord}
    (hp : ∀ column ∈ job.plan.columns, p ≠ job.place position column) :
    (job.writeRow position record s).state.sheet.cell? p = s.sheet.cell? p := by
  unfold writeRow
  refine (cell?_writeCells_of_ne position record job.plan.columns _ hp).trans ?_
  cases job.rowHeight? position record <;> rfl

/-- Writing records from a position on leaves alone what is not a cell of theirs. -/
theorem cell?_writeRecords_of_ne (position : Nat) (records : List Record) (s : TableState)
    {p : Coord} (hp : ∀ i < records.length, ∀ column ∈ job.plan.columns, p ≠ job.place (position + i) column) :
    (job.writeRecords position records s).state.sheet.cell? p = s.sheet.cell? p := by
  induction records generalizing position s with
  | nil => rfl
  | cons record records ih =>
    have hfirst := cell?_writeRow_of_ne position record s (hp 0 (Nat.succ_pos _))
    rw [writeRecords]
    split
    · next s₁ hrow =>
      rw [hrow] at hfirst
      refine (ih (position + 1) s₁ fun i hi column hc => ?_).trans hfirst
      rw [show position + 1 + i = position + (i + 1) by omega]
      exact hp (i + 1) (Nat.succ_lt_succ hi) column hc
    · exact hfirst

/-! ## What is written -/

/-- What has been written so far is remembered rightly, and a part of the run only adds to it. -/
structure Continues (first : StyleRegistry) (records : List Record) (s s' : TableState) : Prop where
  remembers : s'.resolver.Remembers first records s'.styles
  grows : s.styles.Grows s'.styles

/-- The formulas that may be written into the cell of a record in a column have their leading `=`. -/
def Marked (record : Record) (column : TableColumn) : Prop :=
  record.MarkedAt column.dataField ∧ column.FormulasMarked

/-- A cell that is written without failure: the record follows a sample, and is a subtotal or gets a
content and a style. -/
theorem writeCell_cases {position : Nat} {record : Record} {column : TableColumn}
    (h : job.writeCell position record column s = ⟨s', none⟩) :
    ∃ sample, column.sample? (record.sampleIndex position) = some sample ∧
      (record.isSubtotal = true ∧
          s' = { s with
            sheet := (writeSubtotal s.sheet (job.place position column) column record).setStyle
              (job.place position column) 0 } ∨
        record.isSubtotal = false ∧ ∃ sheet style,
          writeContent job.functions s.sheet (job.place position column) column sample record =
              .ok sheet ∧
            s.resolver.resolve column sample.style position record s.styles =
              (.ok style, s'.resolver, s'.styles) ∧
            s'.sheet = sheet.setStyle (job.place position column) style) := by
  have hplace : (⟨job.firstRow + position, column.renderCol⟩ : Coord) = job.place position column :=
    rfl
  unfold writeCell at h
  dsimp only at h
  rw [hplace] at h
  cases hsample : column.sample? (record.sampleIndex position) with
  | none =>
    rw [hsample] at h
    cases (WriteOutcome.mk.inj h).2
  | some sample =>
    rw [hsample] at h
    dsimp only at h
    refine ⟨sample, rfl, ?_⟩
    by_cases hkind : record.isSubtotal = true
    · rw [if_pos hkind] at h
      exact .inl ⟨hkind, (WriteOutcome.mk.inj h).1.symm⟩
    · rw [if_neg hkind] at h
      cases hwrite : writeContent job.functions s.sheet (job.place position column) column sample
          record with
      | error e =>
        rw [hwrite] at h
        cases (WriteOutcome.mk.inj h).2
      | ok sheet =>
        rw [hwrite] at h
        dsimp only at h
        cases hresolve : s.resolver.resolve column sample.style position record s.styles with
        | mk style rest =>
          obtain ⟨resolver, styles⟩ := rest
          rw [hresolve] at h
          cases style with
          | error e => cases (WriteOutcome.mk.inj h).2
          | ok style =>
            obtain ⟨rfl, -⟩ := WriteOutcome.mk.inj h
            exact .inr ⟨Bool.eq_false_of_not_eq_true hkind, sheet, style, rfl, rfl, rfl⟩

theorem writeCell_spec {position : Nat} {record : Record} {column : TableColumn}
    (hremembers : s.resolver.Remembers first records s.styles)
    (hat : records[position]? = some record)
    (h : job.writeCell position record column s = ⟨s', none⟩) :
    Continues first records s s' ∧ (Marked record column →
      ∃ cell, s'.sheet.cell? (job.place position column) = some cell ∧
        job.Filled first s'.styles position record column cell) := by
  have hrow : job.firstRow + position = (job.place position column).row := rfl
  obtain ⟨sample, hsample, ⟨hkind, rfl⟩ | ⟨hkind, sheet, style, hwrite, hresolve, hsheet⟩⟩ :=
    writeCell_cases h
  · refine ⟨⟨hremembers, .refl⟩, fun hmarked => ?_⟩
    have hcontent : recordContent job.functions (job.firstRow + position) column sample record = _ :=
      content_writeSubtotal hmarked.1 hkind s.sheet (job.place position column)
    refine ⟨_, ?_, sample, _, 0, hsample, hcontent, if_pos hkind ▸ rfl, rfl⟩
    rw [Worksheet.cell?_setStyle_eq, if_pos rfl]
  · obtain ⟨hafter, hgrows, hstyle⟩ := hremembers.resolve hat hresolve
    refine ⟨⟨hafter, hgrows⟩, fun hmarked => ?_⟩
    have hcontent := content_writeContent hmarked.1
      (hmarked.2 sample (List.mem_of_getElem? hsample)) hkind hwrite
    refine ⟨_, ?_, sample, _, style, hsample, hrow ▸ hcontent, ?_, rfl⟩
    · rw [hsheet, Worksheet.cell?_setStyle_eq, if_pos rfl]
    · rwa [if_neg (by rw [hkind]; exact Bool.false_ne_true)]

/-- A run over columns writes the first cell and then the others. -/
theorem writeCells_cons {position : Nat} {record : Record} {column : TableColumn}
    {columns : List TableColumn}
    (h : job.writeCells position record (column :: columns) s = ⟨s', none⟩) :
    ∃ s₁, job.writeCell position record column s = ⟨s₁, none⟩ ∧
      job.writeCells position record columns s₁ = ⟨s', none⟩ := by
  rw [writeCells] at h
  cases hcell : job.writeCell position record column s with
  | mk s₁ failure =>
    rw [hcell] at h
    cases failure with
    | some e => cases (WriteOutcome.mk.inj h).2
    | none => exact ⟨s₁, rfl, h⟩

/-- A run over records writes the first row and then the others. -/
theorem writeRecords_cons {position : Nat} {record : Record} {rest : List Record}
    (h : job.writeRecords position (record :: rest) s = ⟨s', none⟩) :
    ∃ s₁, job.writeRow position record s = ⟨s₁, none⟩ ∧
      job.writeRecords (position + 1) rest s₁ = ⟨s', none⟩ := by
  rw [writeRecords] at h
  cases hrow : job.writeRow position record s with
  | mk s₁ failure =>
    rw [hrow] at h
    cases failure with
    | some e => cases (WriteOutcome.mk.inj h).2
    | none => exact ⟨s₁, rfl, h⟩

theorem writeCells_spec {position : Nat} {record : Record} {columns : List TableColumn}
    (hremembers : s.resolver.Remembers first records s.styles)
    (hat : records[position]? = some record) (hnodup : (columns.map (·.renderCol)).Nodup)
    (h : job.writeCells position record columns s = ⟨s', none⟩) :
    Continues first records s s' ∧ ∀ column ∈ columns, Marked record column →
      ∃ cell, s'.sheet.cell? (job.place position column) = some cell ∧
        job.Filled first s'.styles position record column cell := by
  induction columns generalizing s with
  | nil =>
    obtain ⟨rfl, -⟩ := WriteOutcome.mk.inj h
    exact ⟨⟨hremembers, .refl⟩, fun _ hmem => absurd hmem List.not_mem_nil⟩
  | cons column columns ih =>
    obtain ⟨hnew, hnodup⟩ := List.nodup_cons.1 hnodup
    obtain ⟨s₁, hcell, hrun⟩ := writeCells_cons h
    obtain ⟨hfirst, hfilledFirst⟩ := writeCell_spec hremembers hat hcell
    obtain ⟨hrest, hfilledRest⟩ := ih hfirst.remembers hnodup hrun
    refine ⟨⟨hrest.remembers, hfirst.grows.trans hrest.grows⟩, fun c hc hmarked => ?_⟩
    rcases List.mem_cons.1 hc with rfl | hc
    · -- the columns behind this one are written elsewhere
      have hother : ∀ c' ∈ columns, job.place position c ≠ job.place position c' :=
        fun c' hc' heq => hnew (List.mem_map.2 ⟨c', hc', (congrArg Coord.col heq).symm⟩)
      have hkept := cell?_writeCells_of_ne position record columns s₁ hother
      rw [hrun] at hkept
      obtain ⟨cell, hget, hfilled⟩ := hfilledFirst hmarked
      exact ⟨cell, hkept.trans hget, hfilled.mono hrest.grows⟩
    · exact hfilledRest c hc hmarked

theorem writeRow_spec {position : Nat} {record : Record}
    (hremembers : s.resolver.Remembers first records s.styles)
    (hat : records[position]? = some record)
    (hnodup : (job.plan.columns.map (·.renderCol)).Nodup)
    (h : job.writeRow position record s = ⟨s', none⟩) :
    Continues first records s s' ∧ ∀ column ∈ job.plan.columns, Marked record column →
      ∃ cell, s'.sheet.cell? (job.place position column) = some cell ∧
        job.Filled first s'.styles position record column cell := by
  have hsized : ∃ sheet : Worksheet,
      job.writeCells position record job.plan.columns { s with sheet } = ⟨s', none⟩ := ⟨_, h⟩
  obtain ⟨sheet, hcells⟩ := hsized
  obtain ⟨hcontinues, hfilled⟩ :=
    writeCells_spec (s := { s with sheet }) hremembers hat hnodup hcells
  exact ⟨⟨hcontinues.remembers, hcontinues.grows⟩, hfilled⟩

/-- Records from a position on are written on rows of their own. -/
theorem writeRecords_filled {position : Nat} {rest : List Record}
    (hremembers : s.resolver.Remembers first records s.styles)
    (hrest : ∀ i, rest[i]? = records[position + i]?)
    (hnodup : (job.plan.columns.map (·.renderCol)).Nodup)
    (h : job.writeRecords position rest s = ⟨s', none⟩) :
    Continues first records s s' ∧
      ∀ i record, rest[i]? = some record → ∀ column ∈ job.plan.columns, Marked record column →
        ∃ cell, s'.sheet.cell? (job.place (position + i) column) = some cell ∧
          job.Filled first s'.styles (position + i) record column cell := by
  induction rest generalizing position s with
  | nil =>
    obtain ⟨rfl, -⟩ := WriteOutcome.mk.inj h
    refine ⟨⟨hremembers, .refl⟩, fun i record hget => ?_⟩
    cases hget
  | cons record rest ih =>
    obtain ⟨s₁, hrow, hrun⟩ := writeRecords_cons h
    have hat : records[position]? = some record := (hrest 0).symm
    obtain ⟨hfirst, hfilled⟩ := writeRow_spec hremembers hat hnodup hrow
    have hnext : ∀ i, rest[i]? = records[position + 1 + i]? := fun i => by
      rw [Nat.add_assoc, Nat.add_comm 1 i, ← hrest (i + 1), List.getElem?_cons_succ]
    obtain ⟨hlast, hfilledRest⟩ := ih hfirst.remembers hnext hrun
    refine ⟨⟨hlast.remembers, hfirst.grows.trans hlast.grows⟩, fun i r hr column hc hmarked => ?_⟩
    cases i with
    | zero =>
      obtain rfl := Option.some.inj hr
      obtain ⟨cell, hget, hcell⟩ := hfilled column hc hmarked
      -- later records are on rows further down
      have hbelow : ∀ i < rest.length, ∀ column' ∈ job.plan.columns,
          job.place position column ≠ job.place (position + 1 + i) column' := by
        intro i _ column' _ heq
        have hrow := congrArg Coord.row heq
        simp only [place] at hrow
        omega
      have hkept := cell?_writeRecords_of_ne (position + 1) rest s₁ hbelow
      rw [hrun] at hkept
      exact ⟨cell, hkept.trans hget, hcell.mono hlast.grows⟩
    | succ i =>
      rw [show position + (i + 1) = position + 1 + i by omega]
      exact hfilledRest i r hr column hc hmarked

/-- Records with formulas that begin with `=` are written completely. -/
theorem writeRecords_spec {position : Nat} {rest : List Record}
    (hremembers : s.resolver.Remembers first records s.styles)
    (hrest : ∀ i, rest[i]? = records[position + i]?)
    (hrecords : ∀ record ∈ rest, record.FormulasMarked)
    (hcolumns : ∀ column ∈ job.plan.columns, column.FormulasMarked)
    (hnodup : (job.plan.columns.map (·.renderCol)).Nodup)
    (h : job.writeRecords position rest s = ⟨s', none⟩) :
    Continues first records s s' ∧
      ∀ i record, rest[i]? = some record → ∀ column ∈ job.plan.columns,
        ∃ cell, s'.sheet.cell? (job.place (position + i) column) = some cell ∧
          job.Filled first s'.styles (position + i) record column cell := by
  obtain ⟨hcontinues, hfilled⟩ := writeRecords_filled hremembers hrest hnodup h
  refine ⟨hcontinues, fun i record hrecord column hcolumn => ?_⟩
  exact hfilled i record hrecord column hcolumn
    ⟨hrecords record (List.mem_of_getElem? hrecord) _, hcolumns column hcolumn⟩

/-- A run over two lists of records is a run over the first and one over the second. -/
theorem writeRecords_append {position : Nat} {before after : List Record}
    (h : job.writeRecords position (before ++ after) s = ⟨s', none⟩) :
    ∃ s₁, job.writeRecords position before s = ⟨s₁, none⟩ ∧
      job.writeRecords (position + before.length) after s₁ = ⟨s', none⟩ := by
  induction before generalizing position s with
  | nil => exact ⟨s, rfl, h⟩
  | cons record before ih =>
    obtain ⟨s₁, hrow, hrun⟩ := writeRecords_cons h
    obtain ⟨s₂, hbefore, hafter⟩ := ih hrun
    refine ⟨s₂, ?_, ?_⟩
    · rw [writeRecords, hrow]
      exact hbefore
    · rwa [List.length_cons, show position + (before.length + 1) = position + 1 + before.length by
        omega]

theorem cell?_applyFilter (job : TableJob) (count : Nat) (w : Worksheet) (p : Coord) :
    (job.applyFilter count w).cell? p = w.cell? p := by
  unfold applyFilter
  split <;> rfl

/-- A run that succeeds has written all records, and filters the sheet at the end. -/
theorem writeRows_cases (h : job.writeRows records s = ⟨s', none⟩) :
    ∃ s₁, job.writeRecords 0 records s = ⟨s₁, none⟩ ∧
      s' = { s₁ with sheet := job.applyFilter records.length s₁.sheet } := by
  unfold writeRows at h
  split at h
  · cases (WriteOutcome.mk.inj h).2
  · cases hrun : job.writeRecords 0 records s with
    | mk s₁ failure =>
      rw [hrun] at h
      cases failure with
      | some e => cases (WriteOutcome.mk.inj h).2
      | none => exact ⟨s₁, rfl, (WriteOutcome.mk.inj h).1.symm⟩

/-- The filter is no cell. -/
theorem writeRecords_of_writeRows (h : job.writeRows records s = ⟨s', none⟩) :
    ∃ s₁, job.writeRecords 0 records s = ⟨s₁, none⟩ ∧ s'.styles = s₁.styles ∧
      ∀ p, s'.sheet.cell? p = s₁.sheet.cell? p := by
  obtain ⟨s₁, hrun, rfl⟩ := writeRows_cases h
  exact ⟨s₁, hrun, rfl, job.cell?_applyFilter _ _⟩

/-- A run that succeeds has filled the cell of each record whose formulas begin with `=`. -/
theorem filled_of_writeRows {sheet : Worksheet} {styles : StyleRegistry}
    (hnodup : (job.plan.columns.map (·.renderCol)).Nodup)
    (h : job.writeRows records { sheet, styles } = ⟨s', none⟩) {i : Nat} {record : Record}
    (hat : records[i]? = some record) {column : TableColumn} (hcolumn : column ∈ job.plan.columns)
    (hmarked : Marked record column) :
    ∃ cell, s'.sheet.cell? (job.place i column) = some cell ∧
      job.Filled styles s'.styles i record column cell := by
  obtain ⟨s₁, hrun, hstyles, hcells⟩ := writeRecords_of_writeRows h
  obtain ⟨-, hfilled⟩ := writeRecords_filled (StyleResolver.remembers_init styles records)
    (fun i => by rw [Nat.zero_add]) hnodup hrun
  have hcell := hfilled i record hat column hcolumn hmarked
  rw [Nat.zero_add] at hcell
  rwa [hcells, hstyles]

end TableJob

/-! ## The table of a plan -/

theorem ColumnsRead.nodup_renderCol {w : Worksheet} {columns : List TableColumn}
    (h : ColumnsRead w columns) : (columns.map (·.renderCol)).Nodup := by
  refine List.Nodup.map_on (fun c hc c' hc' heq => ?_) h.nodup.of_map
  have hpos := h.pos c hc
  have hpos' := h.pos c' hc'
  have hcol : c.templateCol = c'.templateCol := by
    simp only [TableColumn.renderCol] at heq
    omega
  exact List.inj_on_of_nodup_map h.nodup hc hc' hcol

theorem ColumnsRead.formulasMarked {w : Worksheet} {columns : List TableColumn}
    (h : ColumnsRead w columns) (hw : w.FormulasMarked) :
    ∀ column ∈ columns, column.FormulasMarked := by
  intro column hcolumn sample hsample formula hformula
  obtain ⟨place, hplace⟩ := h.samples column hcolumn sample hsample formula hformula
  exact hw place formula hplace

/-- Every record lands on its own row, complete and undisturbed.  Let the plan of a table be read from
a template, and the table be written without failure into a sheet whose rows are reserved; formulas
begin with `=`, as they do wherever they are read.  Then:

* the cell of each record in each column is what the record and its sample make it;
* when the first `k` records are written, their rows and all above are as they will be in the end;
* cells that are not on the row of a record in a column of the table are as they were. -/
theorem TableJob.writeRows_fills {labels : DirectiveLabels} {template left sheet : Worksheet}
    {rows : List (List String)} {job : TableJob} {records : List Record} {styles : StyleRegistry}
    {s : TableState} (hplan : compileTable labels template rows = .ok (left, job.plan))
    (htemplate : template.FormulasMarked) (hrecords : ∀ record ∈ records, record.FormulasMarked)
    (h : job.writeRows records { sheet := reserveRows job.firstRow records.length sheet, styles } =
      ⟨s, none⟩) :
    (∀ i record, records[i]? = some record → ∀ column ∈ job.plan.columns,
      ∃ cell, s.sheet.cell? (job.place i column) = some cell ∧
        job.Filled styles s.styles i record column cell) ∧
    (∀ k ≤ records.length, ∃ s',
      job.writeRecords 0 (records.take k)
          { sheet := reserveRows job.firstRow records.length sheet, styles } = ⟨s', none⟩ ∧
        ∀ p : Coord, p.row < job.firstRow + k → s.sheet.cell? p = s'.sheet.cell? p) ∧
    ∀ p, (∀ i < records.length, ∀ column ∈ job.plan.columns, p ≠ job.place i column) →
      s.sheet.cell? p = (reserveRows job.firstRow records.length sheet).cell? p := by
  have hcolumns := (planRead_of_compileTable hplan).columns
  obtain ⟨s₁, hrun, hstyles, hcells⟩ := TableJob.writeRecords_of_writeRows h
  refine ⟨fun i record hrecord column hcolumn => ?_, fun k hk => ?_, fun p hp => ?_⟩
  · obtain ⟨-, hfilled⟩ := TableJob.writeRecords_spec (StyleResolver.remembers_init styles records)
      (fun i => by rw [Nat.zero_add]) hrecords (hcolumns.formulasMarked htemplate)
      hcolumns.nodup_renderCol hrun
    have hcell := hfilled i record hrecord column hcolumn
    rw [Nat.zero_add] at hcell
    rwa [hcells, hstyles]
  · have hsplit := hrun
    rw [← List.take_append_drop k records] at hsplit
    obtain ⟨s', hbefore, hafter⟩ := TableJob.writeRecords_append hsplit
    refine ⟨s', by simpa using hbefore, fun p hp => ?_⟩
    have hbelow : ∀ i < (records.drop k).length, ∀ column ∈ job.plan.columns,
        p ≠ job.place (0 + (records.take k).length + i) column := by
      rintro i - column - rfl
      simp only [TableJob.place, List.length_take] at hp
      omega
    have hkept := TableJob.cell?_writeRecords_of_ne _ _ s' hbelow
    rw [hafter] at hkept
    exact (hcells p).trans hkept
  · have hother : ∀ i < records.length, ∀ column ∈ job.plan.columns,
        p ≠ job.place (0 + i) column := fun i hi column hcolumn => by
      rw [Nat.zero_add]
      exact hp i hi column hcolumn
    have hkept := TableJob.cell?_writeRecords_of_ne 0 records
      { sheet := reserveRows job.firstRow records.length sheet, styles } hother
    rw [hrun] at hkept
    exact (hcells p).trans hkept

/-! ## A table of orders -/

/-- The cells of a template: a title, a table with one column and two samples, and a footer. -/
def orderCells : List (Coord × Cell) :=
  [(⟨0, 1⟩, .ofValue (.text "Orders")), (⟨1, 0⟩, .ofValue (.text "Header")),
    (⟨1, 1⟩, .ofValue (.text "Item")), (⟨2, 0⟩, .ofValue (.text "DataField")),
    (⟨2, 1⟩, .ofValue (.text "item")), (⟨3, 0⟩, .ofValue (.text "Data")), (⟨3, 1⟩, { style := 2 }),
    (⟨4, 0⟩, .ofValue (.text "Data")), (⟨4, 1⟩, { style := 3 }), (⟨5, 1⟩, .ofValue (.text "End"))]

/-- The template with these cells. -/
def orderTemplate : Worksheet where
  name := "Orders"
  grid := orderCells.foldl (fun grid (place, cell) => grid.set place cell) {}

/-- The plan of its table. -/
def orderPlan : TablePlan where
  columns := [{ templateCol := 1, header := "Item", dataField := "item",
                samples := [⟨3, none, 2, none⟩, ⟨4, none, 3, none⟩] }]
  directives := [⟨.header, 1, ["Header", "Item"]⟩, ⟨.dataField, 2, ["DataField", "item"]⟩,
    ⟨.data, 3, ["Data"]⟩, ⟨.data, 4, ["Data"]⟩]
  firstRow := some 2

/-- Two orders, and a line with their sum. -/
def orderRecords : List Record :=
  [({} : Record).withField "item" (.text "pen"), ({} : Record).withField "item" (.text "ink"),
    ({ kind := .subtotal } : Record).withField "item" (.text "All")]

/-- The table of the template, with the first record in its third row. -/
def orderJob : TableJob := ⟨orderPlan, 2, .standard⟩

theorem textRows_orderTemplate : orderTemplate.textRows =
    [["", "Orders"], ["Header", "Item"], ["DataField", "item"], ["Data"], ["Data"], ["", "End"]] :=
  rfl

theorem compileTable_orderTemplate : compileTable .english orderTemplate
    (fillAllMerged orderTemplate.textRows orderTemplate.merged) = .ok (orderTemplate, orderPlan) := by
  rw [textRows_orderTemplate]
  rfl

theorem formulasMarked_orderTemplate : orderTemplate.FormulasMarked := by
  have hplain : ∀ entry ∈ orderCells, entry.2.formula = none := by decide
  intro place formula h
  obtain ⟨cell, hcell, hformula⟩ := Option.bind_eq_some_iff.1 h
  rcases Grid.mem_or_of_get?_foldl_set hcell with hmem | hget
  · rw [hplain _ hmem] at hformula
    cases hformula
  · cases hget

theorem formulasMarked_orderRecords : ∀ record ∈ orderRecords, record.FormulasMarked := by
  have htext : ∀ kind text, Record.FormulasMarked
      (({ kind } : Record).withField "item" (.text text)) := fun kind text =>
    (Record.formulasMarked_of_fields_empty kind none).withField _ fun _ h => by cases h
  simp only [orderRecords, List.forall_mem_cons]
  exact ⟨htext _ _, htext _ _, htext _ _, nofun⟩

/-- The orders and the line with their sum are written into the stripped template. -/
theorem TableJob.writeRows_fills_orders :
    ∃ s, orderJob.writeRows orderRecords
        { sheet := reserveRows 2 3 (orderPlan.strip orderTemplate), styles := .initial } =
          ⟨s, none⟩ ∧
      (∀ i record, orderRecords[i]? = some record → ∀ column ∈ orderPlan.columns,
        ∃ cell, s.sheet.cell? (orderJob.place i column) = some cell ∧
          orderJob.Filled .initial s.styles i record column cell) ∧
      ∀ p, (∀ i < orderRecords.length, ∀ column ∈ orderPlan.columns, p ≠ orderJob.place i column) →
        s.sheet.cell? p = (reserveRows 2 3 (orderPlan.strip orderTemplate)).cell? p := by
  have hrun : orderJob.writeRows orderRecords
      { sheet := reserveRows orderJob.firstRow orderRecords.length
          (orderPlan.strip orderTemplate), styles := .initial } = ⟨_, none⟩ := rfl
  obtain ⟨hfilled, -, hkept⟩ := TableJob.writeRows_fills compileTable_orderTemplate
    formulasMarked_orderTemplate formulasMarked_orderRecords hrun
  exact ⟨_, hrun, hfilled, hkept⟩

end SheetPress
