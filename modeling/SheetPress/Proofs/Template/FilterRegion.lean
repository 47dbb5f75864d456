import SheetPress.Package.SheetMarkup
import SheetPress.Proofs.Template.Rows
import SheetPress.Proofs.Template.Schema

/-!
# The region that is filtered

A finished table is filtered from its header to the last record, and from the first column of the plan
to the last.  Columns are listed in the order in which header rows open them, so that the first is on
the left and the last on the right as long as there is one header row; with more of them a column may be
opened on the left of one that is there.

* `pairwise_headingsOf` — headings are read row by row and from left to right.
* `TableJob.filter_of_writeRows` — the region that a table is filtered over.
* `TableJob.writeRows_filters` — its rows, and when its columns are those of the table.
* `TableJob.secondHeader_inverts_filter` — a filter from right to left, and a sheet that is not saved.
-/

namespace SheetPress

/-! ## The order of headings -/

/-- One heading is read before another: it stands in a row above, or on the left in the same row. -/
def Heading.Before (a b : Heading) : Prop := a.row < b.row ∨ a.row = b.row ∧ a.col < b.col

section Headings

theorem pairwise_headingsFrom (kind : DirectiveKind) (row col : Nat) (cells : List String) :
    (headingsFrom kind row col cells).Pairwise Heading.Before := by
  have hcols : (cells.zipIdx col).Pairwise fun a b => a.2 < b.2 := by
    rw [← List.pairwise_map (f := Prod.snd), List.zipIdx_map_snd]
    exact List.pairwise_lt_range' 1
  refine hcols.filterMap _ fun a b hlt first hfirst second hsecond => ?_
  rw [heading_of_heading? hfirst, heading_of_heading? hsecond]
  exact .inr ⟨rfl, hlt⟩

/-- Headings are read row by row, and from left to right. -/
theorem pairwise_headingsOf {directives : List DirectiveRow}
    (h : (directives.map (·.row)).Pairwise (· < ·)) :
    (headingsOf directives).Pairwise Heading.Before := by
  refine List.pairwise_flatMap.2 ⟨fun d _ => pairwise_headingsFrom .., ?_⟩
  refine (List.pairwise_map.1 h).imp fun hlt first hfirst second hsecond => .inl ?_
  rwa [row_of_mem_headings hfirst, row_of_mem_headings hsecond]

/-- The columns of headings in one row go from left to right. -/
theorem pairwise_col_of_row_eq {headings : List Heading} (h : headings.Pairwise Heading.Before)
    (hrow : ∀ a ∈ headings, ∀ b ∈ headings, a.row = b.row) :
    (headings.map (·.col)).Pairwise (· < ·) := by
  refine List.pairwise_map.2 (h.imp_of_mem fun ha hb hbefore => ?_)
  exact (hbefore.resolve_left (hrow _ ha _ hb).not_lt).2

theorem eraseDups_of_nodup {α : Type} [BEq α] [LawfulBEq α] {items : List α} (h : items.Nodup) :
    items.eraseDups = items := by
  induction items with
  | nil => rfl
  | cons a items ih =>
    obtain ⟨hnew, hrest⟩ := List.nodup_cons.1 h
    have hkept : items.filter (fun b => !b == a) = items :=
      List.filter_eq_self.2 fun b hb => by simpa using ne_of_mem_of_not_mem hb hnew
    rw [List.eraseDups_cons, hkept, ih hrest]

/-- Where the columns go from left to right, the first is leftmost and the last rightmost. -/
theorem between_of_pairwise_lt {cols : List Nat} {first last : Nat} (h : cols.Pairwise (· < ·))
    (hfirst : cols.head? = some first) (hlast : cols.getLast? = some last) :
    ∀ col ∈ cols, first ≤ col ∧ col ≤ last := by
  have hle : cols.Pairwise (· ≤ ·) := h.imp Nat.le_of_lt
  intro col hcol
  rw [List.head?_eq_some_head (List.ne_nil_of_mem hcol)] at hfirst
  rw [List.getLast?_eq_some_getLast (List.ne_nil_of_mem hcol)] at hlast
  rw [← Option.some.inj hfirst, ← Option.some.inj hlast]
  exact ⟨hle.rel_head hcol, hle.rel_getLast hcol⟩

end Headings

/-! ## The region -/

/-- A region goes from the leftmost of some columns to the rightmost. -/
structure Region.Spans (region : Region) (columns : List TableColumn) : Prop where
  leftmost : IsLeast {col | ∃ c ∈ columns, c.renderCol = col} region.startCol
  rightmost : IsGreatest {col | ∃ c ∈ columns, c.renderCol = col} region.endCol

theorem Region.Spans.startCol_le {region : Region} {columns : List TableColumn}
    (h : region.Spans columns) : region.startCol ≤ region.endCol :=
  h.leftmost.2 h.rightmost.1

/-- A region from the first of some columns to the last spans them if all of them lie between. -/
theorem Region.spans_iff {region : Region} {columns : List TableColumn} (hne : columns ≠ [])
    (hstart : (columns.head hne).renderCol = region.startCol)
    (hend : (columns.getLast hne).renderCol = region.endCol) :
    region.Spans columns ↔
      ∀ c ∈ columns, region.startCol ≤ c.renderCol ∧ c.renderCol ≤ region.endCol := by
  constructor
  · intro h c hc
    exact ⟨h.leftmost.2 ⟨c, hc, rfl⟩, h.rightmost.2 ⟨c, hc, rfl⟩⟩
  · intro h
    refine ⟨⟨⟨_, List.head_mem hne, hstart⟩, ?_⟩, ⟨⟨_, List.getLast_mem hne, hend⟩, ?_⟩⟩
    · rintro _ ⟨c, hc, rfl⟩
      exact (h c hc).1
    · rintro _ ⟨c, hc, rfl⟩
      exact (h c hc).2

section Plan

variable {labels : DirectiveLabels} {w w' : Worksheet} {rows : List (List String)}
  {plan : TablePlan} {firstRow : Nat}

/-- The first record has the header above it. -/
theorem firstRow_pos_of_compileTable (h : compileTable labels w rows = .ok (w', plan))
    (hfirst : plan.firstRow = some firstRow) : 0 < firstRow := by
  rw [(planRead_of_compileTable h).firstRow] at hfirst
  obtain ⟨d, -, rfl⟩ := Option.map_eq_some_iff.1 hfirst
  exact Nat.succ_pos d.row

/-- Columns are listed in the order in which they are opened. -/
theorem templateCols_of_compileTable (h : compileTable labels w rows = .ok (w', plan)) :
    plan.columns.map (·.renderCol + 1) =
      ((headingsOf (directiveRows labels 0 rows)).map (·.col)).eraseDups := by
  obtain ⟨hdirectives, hschema⟩ := schemaRead_of_compileTable h
  rw [← hdirectives, ← hschema.captured.order]
  refine List.map_congr_left fun c hc => ?_
  exact Nat.sub_add_cancel ((planRead_of_compileTable h).columns.pos c hc)

/-- Columns that are opened in one row go from left to right. -/
theorem pairwise_renderCol_of_row_eq (h : compileTable labels w rows = .ok (w', plan))
    (hrow : ∀ a ∈ headingsOf (directiveRows labels 0 rows),
      ∀ b ∈ headingsOf (directiveRows labels 0 rows), a.row = b.row) :
    (plan.columns.map (·.renderCol)).Pairwise (· < ·) := by
  have hsorted := (planRead_of_compileTable h).sorted
  rw [(schemaRead_of_compileTable h).1] at hsorted
  have hcols := pairwise_col_of_row_eq (pairwise_headingsOf hsorted) hrow
  have horder := templateCols_of_compileTable h
  rw [eraseDups_of_nodup (hcols.imp Nat.ne_of_lt)] at horder
  rw [← horder, List.pairwise_map] at hcols
  exact List.pairwise_map.2 (hcols.imp Nat.lt_of_succ_lt_succ)

end Plan

namespace TableJob

variable {job : TableJob} {records : List Record} {s s' : TableState}

/-- A table that has columns and records is filtered from the first of its columns to the last. -/
theorem filter_of_writeRows (hcolumns : job.plan.columns ≠ []) (hrecords : records ≠ [])
    (h : job.writeRows records s = ⟨s', none⟩) :
    ∃ region, s'.sheet.filter = some region ∧ region.startRow = job.firstRow - 1 ∧
      region.endRow = job.firstRow - 1 + records.length ∧
      (job.plan.columns.head hcolumns).renderCol = region.startCol ∧
      (job.plan.columns.getLast hcolumns).renderCol = region.endCol := by
  obtain ⟨s₁, -, rfl⟩ := writeRows_cases h
  have hregion (count : Nat) : job.filterRegion? count = some
      ⟨job.firstRow - 1, (job.plan.columns.head hcolumns).renderCol, job.firstRow - 1 + count,
        (job.plan.columns.getLast hcolumns).renderCol⟩ := by
    rw [filterRegion?, List.head?_eq_some_head hcolumns, List.getLast?_eq_some_getLast hcolumns]
    rfl
  have happly : (job.applyFilter records.length s₁.sheet).filter =
      job.filterRegion? records.length := by
    unfold applyFilter
    split
    · next hcount => exact absurd (List.length_eq_zero_iff.1 hcount) hrecords
    · next hsome _ => exact hsome.symm
    · next hnone _ => rw [hregion] at hnone; cases hnone
  exact ⟨_, happly.trans (hregion _), rfl, rfl, rfl, rfl⟩

/-- The rows and columns that a table is filtered over.  The rows go from the header to the last record.
The columns go from the one that was opened first to the one that was opened last; these are leftmost
and rightmost exactly if every heading stands between them, and they are if all headings stand in one
row. -/
theorem writeRows_filters {labels : DirectiveLabels} {w w' : Worksheet} {rows : List (List String)}
    (hread : compileTable labels w rows = .ok (w', job.plan))
    (hfirst : job.plan.firstRow = some job.firstRow) (hcolumns : job.plan.columns ≠ [])
    (hrecords : records ≠ []) (hrun : job.writeRows records s = ⟨s', none⟩) :
    ∃ region, s'.sheet.filter = some region ∧
      region.startRow + 1 = job.firstRow ∧ region.endRow + 1 = job.firstRow + records.length ∧
      region.startRow < region.endRow ∧
      ((headingsOf (directiveRows labels 0 rows)).map (·.col)).eraseDups.head? =
        some (region.startCol + 1) ∧
      ((headingsOf (directiveRows labels 0 rows)).map (·.col)).eraseDups.getLast? =
        some (region.endCol + 1) ∧
      (region.Spans job.plan.columns ↔ ∀ heading ∈ headingsOf (directiveRows labels 0 rows),
        region.startCol < heading.col ∧ heading.col ≤ region.endCol + 1) ∧
      ((∀ a ∈ headingsOf (directiveRows labels 0 rows),
          ∀ b ∈ headingsOf (directiveRows labels 0 rows), a.row = b.row) →
        region.Spans job.plan.columns ∧ region.startCol ≤ region.endCol) := by
  obtain ⟨region, hfilter, hstartRow, hendRow, hstartCol, hendCol⟩ :=
    filter_of_writeRows hcolumns hrecords hrun
  have hpos := firstRow_pos_of_compileTable hread hfirst
  have hcount := List.length_pos_iff.2 hrecords
  have hspans := Region.spans_iff hcolumns hstartCol hendCol
  have horder := templateCols_of_compileTable hread
  refine ⟨region, hfilter, by omega, by omega, by omega, ?_, ?_, hspans.trans ?_, fun hrow => ?_⟩
  · rw [← horder, List.head?_map, List.head?_eq_some_head hcolumns, Option.map_some, hstartCol]
  · rw [← horder, List.getLast?_map, List.getLast?_eq_some_getLast hcolumns, Option.map_some, hendCol]
  · have hmem (col : Nat) : (∃ c ∈ job.plan.columns, c.renderCol + 1 = col) ↔
        ∃ heading ∈ headingsOf (directiveRows labels 0 rows), heading.col = col := by
      rw [← List.mem_map, ← List.mem_map, horder, List.mem_eraseDups]
    constructor
    · intro h heading hheading
      obtain ⟨c, hc, hcol⟩ := (hmem _).2 ⟨heading, hheading, rfl⟩
      have := h c hc
      omega
    · intro h c hc
      obtain ⟨heading, hheading, hcol⟩ := (hmem _).1 ⟨c, hc, rfl⟩
      have := h heading hheading
      omega
  · have hall : region.Spans job.plan.columns := hspans.2 fun c hc => by
      rw [← hstartCol, ← hendCol]
      exact between_of_pairwise_lt (pairwise_renderCol_of_row_eq hread hrow)
        (by rw [List.head?_map, List.head?_eq_some_head hcolumns, Option.map_some])
        (by rw [List.getLast?_map, List.getLast?_eq_some_getLast hcolumns, Option.map_some])
        _ (List.mem_map_of_mem hc)
    exact ⟨hall, hall.startCol_le⟩

end TableJob

/-! ## A table with two header rows -/

/-- The cells of a template whose second header row opens a column on the left of the first. -/
def regionCells : List (Coord × Cell) :=
  [(⟨0, 0⟩, .ofValue (.text "Header")), (⟨0, 2⟩, .ofValue (.text "Amount")),
    (⟨1, 0⟩, .ofValue (.text "Header")), (⟨1, 1⟩, .ofValue (.text "Region")),
    (⟨2, 0⟩, .ofValue (.text "DataField")), (⟨2, 1⟩, .ofValue (.text "region")),
    (⟨2, 2⟩, .ofValue (.text "amount")), (⟨3, 0⟩, .ofValue (.text "Data"))]

/-- The template with these cells. -/
def regionTemplate : Worksheet where
  name := "Sales"
  grid := regionCells.foldl (fun grid (place, cell) => grid.set place cell) {}

/-- The plan of its table. -/
def regionPlan : TablePlan where
  columns := [
    { templateCol := 2, header := "Amount", dataField := "amount", samples := [⟨3, none, 0, none⟩] },
    { templateCol := 1, header := "Region", dataField := "region", samples := [⟨3, none, 0, none⟩] }]
  directives := [⟨.header, 0, ["Header", "", "Amount"]⟩, ⟨.header, 1, ["Header", "Region"]⟩,
    ⟨.dataField, 2, ["DataField", "region", "amount"]⟩, ⟨.data, 3, ["Data"]⟩]
  firstRow := some 1

/-- The sales of two regions. -/
def regionRecords : List Record :=
  [(({} : Record).withField "region" (.text "North")).withField "amount" (.text "many"),
    (({} : Record).withField "region" (.text "South")).withField "amount" (.text "few")]

/-- The table of the template, with the first record in its second row. -/
def regionJob : TableJob := ⟨regionPlan, 1, .standard⟩

namespace TableJob

/-- The orders stand below one header row, and the filter spans them. -/
theorem writeRows_filters_orders :
    ∃ s region, orderJob.writeRows orderRecords
        { sheet := reserveRows 2 3 (orderPlan.strip orderTemplate), styles := .initial } =
          ⟨s, none⟩ ∧
      s.sheet.filter = some region ∧ region.startRow = 1 ∧ region.endRow = 4 ∧
      region.Spans orderPlan.columns := by
  have hrun : orderJob.writeRows orderRecords
      { sheet := reserveRows 2 3 (orderPlan.strip orderTemplate), styles := .initial } =
        ⟨_, none⟩ := rfl
  obtain ⟨region, hfilter, hstart, hend, -, -, -, -, hspans⟩ :=
    writeRows_filters compileTable_orderTemplate rfl (by decide) (by decide) hrun
  exact ⟨_, region, hrun, hfilter, Nat.succ_inj.1 hstart, Nat.succ_inj.1 hend,
    (hspans (by decide)).1⟩

/-- The regions are written without failure and filtered from right to left, and their sheet cannot be
saved. -/
theorem secondHeader_inverts_filter :
    compileTable .english regionTemplate regionTemplate.textRows = .ok (regionTemplate, regionPlan) ∧
      ∃ s, regionJob.writeRows regionRecords
          { sheet := reserveRows 1 2 (regionPlan.strip regionTemplate), styles := .initial } =
            ⟨s, none⟩ ∧
        s.sheet.filter = some ⟨0, 1, 2, 0⟩ ∧
        s.sheet.written s.styles = .error (.invertedRegion ⟨0, 1, 2, 0⟩) :=
  ⟨rfl, _, rfl, rfl, rfl⟩

end TableJob

end SheetPress
