import SheetPress.Proofs.Template.Plan

/-!
# What a plan takes from a template

A column of the table is opened by the first header row that has a text in its place, and takes a
sample from every data row below.  The samples are cells as they were before anything was read, for
reading a data row takes formulas out of the sheet that later rows are read from.

* `Captured` — columns that are what headings and data rows make of them.
* `SchemaRead.readRow` — reading one more row keeps the columns so, and the sheet.
* `schemaRead_of_compileTable`, `exists_readRows` — what a plan has read, and when there is one.
* `compileTable_captures` — the columns of a table and the sheet that is left.
-/

namespace SheetPress

/-! ## What the rows of a template say -/

/-- A text of a header row that asks for a column. -/
structure Heading where
  row : Nat
  col : Nat
  text : String
  deriving DecidableEq, Repr

/-- The heading that a cell of a directive row is, if it is one. -/
def heading? (kind : DirectiveKind) (row : Nat) (text : String) (col : Nat) : Option Heading :=
  if kind = .header ∧ !isBlankText text then some ⟨row, col, text⟩ else none

/-- The headings among cells that stand in a row from a column on. -/
def headingsFrom (kind : DirectiveKind) (row col : Nat) (cells : List String) : List Heading :=
  (cells.zipIdx col).filterMap fun entry => heading? kind row entry.1 entry.2

/-- The headings of a directive row. The first column holds the directive. -/
def DirectiveRow.headings (d : DirectiveRow) : List Heading :=
  headingsFrom d.kind d.row 1 (d.cells.drop 1)

/-- The headings of a template, row by row. -/
def headingsOf (directives : List DirectiveRow) : List Heading :=
  directives.flatMap DirectiveRow.headings

/-- The data rows of a template. -/
def dataRowsOf (directives : List DirectiveRow) : List Nat :=
  (directives.filter (·.kind == .data)).map (·.row)

/-- What a row says if its first cell holds a directive. -/
def directiveRow? (labels : DirectiveLabels) (cells : List String) (row : Nat) :
    Option DirectiveRow :=
  (cells.head?.bind labels.directive?).map (⟨·, row, cells⟩)

/-- The directive rows among rows that are numbered from `first` on. -/
def directiveRows (labels : DirectiveLabels) (first : Nat) (rows : List (List String)) :
    List DirectiveRow :=
  (rows.zipIdx first).filterMap fun entry => directiveRow? labels entry.1 entry.2

theorem headingsFrom_cons (kind : DirectiveKind) (row col : Nat) (text : String)
    (cells : List String) :
    headingsFrom kind row col (text :: cells) =
      (heading? kind row text col).toList ++ headingsFrom kind row (col + 1) cells := by
  rw [headingsFrom, List.zipIdx_cons, List.filterMap_cons]
  dsimp only
  cases heading? kind row text col <;> rfl

theorem headingsFrom_of_ne {kind : DirectiveKind} (h : kind ≠ .header) (row col : Nat)
    (cells : List String) : headingsFrom kind row col cells = [] := by
  refine List.filterMap_eq_nil_iff.2 fun entry _ => ?_
  rw [heading?, if_neg fun hheader => h hheader.1]

theorem heading_of_heading? {kind : DirectiveKind} {row col : Nat} {text : String} {heading : Heading}
    (h : heading? kind row text col = some heading) : heading = ⟨row, col, text⟩ := by
  rw [heading?] at h
  split at h
  · exact (Option.some.inj h).symm
  · cases h

theorem row_of_mem_headings {d : DirectiveRow} {heading : Heading} (h : heading ∈ d.headings) :
    heading.row = d.row := by
  obtain ⟨entry, -, hsome⟩ := List.mem_filterMap.1 h
  rw [heading_of_heading? hsome]

theorem directiveRows_cons (labels : DirectiveLabels) (first : Nat) (cells : List String)
    (rows : List (List String)) :
    directiveRows labels first (cells :: rows) =
      (directiveRow? labels cells first).toList ++ directiveRows labels (first + 1) rows := by
  rw [directiveRows, List.zipIdx_cons, List.filterMap_cons]
  dsimp only
  cases directiveRow? labels cells first <;> rfl

/-! ## Sheets that lost formulas -/

namespace Worksheet

/-- A sheet without the formulas in some places; all else of it stays. -/
def withoutFormulas (w : Worksheet) (places : List Coord) : Worksheet :=
  { w with
    grid := { w.grid with
      cells := w.grid.cells.map fun place cell =>
        if place ∈ places then { cell with formula := none } else cell } }

variable {w : Worksheet} {places : List Coord} {place : Coord}

theorem cell?_withoutFormulas (w : Worksheet) (places : List Coord) (place : Coord) :
    (w.withoutFormulas places).cell? place =
      if place ∈ places then (w.cell? place).map fun cell => { cell with formula := none }
      else w.cell? place := by
  rw [cell?, Grid.get?, withoutFormulas, Std.ExtTreeMap.getElem?_map, cell?, Grid.get?]
  split
  · rfl
  · exact Option.map_id_apply

/-- Sheets with the same layout and the same cells are the same. -/
theorem ext_cell? {w w' : Worksheet} (hlayout : { w with grid := w'.grid } = w')
    (hrow : w.grid.maxRow = w'.grid.maxRow) (hcol : w.grid.maxCol = w'.grid.maxCol)
    (hcells : ∀ place, w.cell? place = w'.cell? place) : w = w' := by
  rw [← hlayout, ← Grid.ext_get? hrow hcol hcells]

theorem withoutFormulas_congr {places' : List Coord} (h : ∀ p, p ∈ places ↔ p ∈ places') :
    w.withoutFormulas places = w.withoutFormulas places' := by
  refine ext_cell? rfl rfl rfl fun p => ?_
  rw [cell?_withoutFormulas, cell?_withoutFormulas]
  simp only [h]

theorem withoutFormulas_nil (w : Worksheet) : w.withoutFormulas [] = w := by
  refine ext_cell? rfl rfl rfl fun p => ?_
  rw [cell?_withoutFormulas, if_neg List.not_mem_nil]

theorem withoutFormulas_withoutFormulas (w : Worksheet) (places places' : List Coord) :
    (w.withoutFormulas places).withoutFormulas places' = w.withoutFormulas (places ++ places') := by
  refine ext_cell? rfl rfl rfl fun p => ?_
  rw [cell?_withoutFormulas, cell?_withoutFormulas, cell?_withoutFormulas]
  by_cases hp : p ∈ places <;> by_cases hp' : p ∈ places'
  · rw [if_pos hp', if_pos hp, if_pos (List.mem_append_left _ hp), Option.map_map]
    rfl
  · rw [if_neg hp', if_pos hp, if_pos (List.mem_append_left _ hp)]
  · rw [if_pos hp', if_neg hp, if_pos (List.mem_append_right _ hp')]
  · rw [if_neg hp', if_neg hp, if_neg (by simp [hp, hp'])]

theorem dropFormula_eq (w : Worksheet) (place : Coord) :
    w.dropFormula place = w.withoutFormulas [place] := by
  have hlayout : w.dropFormula place =
      { w with grid := { w.grid with cells := (w.dropFormula place).grid.cells } } := by
    unfold dropFormula setFormula
    split
    · cases w.cell? place <;> rfl
    · rfl
  have hcell (p : Coord) :
      (w.dropFormula place).cell? p = (w.withoutFormulas [place]).cell? p := by
    rw [cell?_dropFormula, cell?_withoutFormulas]
    by_cases hp : p = place
    · rw [if_pos hp, if_pos (List.mem_singleton.2 hp), hp]
    · rw [if_neg hp, if_neg (mt List.mem_singleton.1 hp)]
  rw [hlayout]
  exact ext_cell? rfl rfl rfl hcell

/-- A sample tells how its cell was, as long as no formula was taken out of it. -/
theorem sample_withoutFormulas (h : place ∉ places) :
    (w.withoutFormulas places).sample place = w.sample place := by
  have hcell : (w.withoutFormulas places).cell? place = w.cell? place := by
    rw [cell?_withoutFormulas, if_neg h]
  rw [sample, sample, formula?, style, hcell]
  rfl

end Worksheet

/-- The cells of a data row from which the samples of columns are taken. -/
def samplePlacesIn (row : Nat) (columns : List TableColumn) : List Coord :=
  columns.map fun c => ⟨row, c.templateCol⟩

theorem takeSamples_fst (row : Nat) (w : Worksheet) (columns : List TableColumn) :
    (takeSamples row w columns).1 = w.withoutFormulas (samplePlacesIn row columns) := by
  unfold takeSamples
  dsimp only
  induction columns generalizing w with
  | nil => exact w.withoutFormulas_nil.symm
  | cons c columns ih =>
    rw [List.foldl_cons, ih, Worksheet.dropFormula_eq, Worksheet.withoutFormulas_withoutFormulas]
    rfl

/-! ## Columns and what they were made of -/

/-- The columns are what headings and data rows make of them. -/
structure Captured (w : Worksheet) (headings : List Heading) (dataRows : List Nat)
    (columns : List TableColumn) : Prop where
  /-- Columns are where headings are, in the order in which these come first. -/
  order : columns.map (·.templateCol) = (headings.map (·.col)).eraseDups
  /-- A column has the text of the first heading in its place, and the samples of the data rows below
  that heading. -/
  column : ∀ c ∈ columns, ∃ heading,
    headings.find? (·.col == c.templateCol) = some heading ∧ c.header = heading.text ∧
      c.samples = (dataRows.filter (heading.row < ·)).map fun row => w.sample ⟨row, c.templateCol⟩

section Captured

variable {w : Worksheet} {headings : List Heading} {dataRows : List Nat}
  {columns columns' : List TableColumn} {kind : DirectiveKind} {row col : Nat}

theorem header_tell (kind : DirectiveKind) (text : String) (c : TableColumn) :
    (c.tell kind text).header = c.header := by
  unfold TableColumn.tell
  cases kind <;> rfl

/-- There is a column where there is a heading. -/
theorem Captured.any_iff (h : Captured w headings dataRows columns) (col : Nat) :
    columns.any (·.templateCol == col) = true ↔ col ∈ headings.map (·.col) := by
  rw [← List.mem_eraseDups, ← h.order, List.any_eq_true, List.mem_map]
  simp only [beq_iff_eq]

/-- Telling columns what fills and colors them leaves them what they are. -/
theorem Captured.tell (h : Captured w headings dataRows columns) (kind : DirectiveKind) (col : Nat)
    (text : String) : Captured w headings dataRows
      (columns.map fun c => if c.templateCol = col then c.tell kind text else c) := by
  have hcol (c : TableColumn) :
      (if c.templateCol = col then c.tell kind text else c).templateCol = c.templateCol := by
    split
    · exact templateCol_tell kind text c
    · rfl
  refine ⟨?_, fun _ hmem => ?_⟩
  · rw [List.map_map, ← h.order]
    exact List.map_congr_left fun c _ => hcol c
  · obtain ⟨c, hc, rfl⟩ := List.mem_map.1 hmem
    obtain ⟨heading, hfind, hheader, hsamples⟩ := h.column c hc
    refine ⟨heading, by rwa [hcol], ?_, ?_⟩
    · split
      · rwa [header_tell]
      · exact hheader
    · rw [hcol]
      split
      · rwa [samples_tell]
      · exact hsamples

/-- A further heading changes nothing where there is a column. -/
theorem Captured.heading_of_mem (h : Captured w headings dataRows columns) {heading : Heading}
    (hmem : heading.col ∈ headings.map (·.col)) :
    Captured w (headings ++ [heading]) dataRows columns where
  order := by
    have hseen : [heading.col].removeAll (headings.map (·.col)) = [] := by
      rw [List.removeAll, List.filter_cons_of_neg (by simpa using hmem), List.filter_nil]
    rw [h.order, List.map_append, List.map_singleton, List.eraseDups_append, hseen,
      List.eraseDups_nil, List.append_nil]
  column c hc := by
    obtain ⟨first, hfind, hheader, hsamples⟩ := h.column c hc
    exact ⟨first, by rw [List.find?_append, hfind, Option.some_or], hheader, hsamples⟩

/-- A heading in a new place opens a column; there is no data row below it yet. -/
theorem Captured.heading_of_notMem (h : Captured w headings dataRows columns)
    (habove : ∀ r ∈ dataRows, r < row) (text : String) (hnew : col ∉ headings.map (·.col)) :
    Captured w (headings ++ [⟨row, col, text⟩]) dataRows
      (columns ++ [{ templateCol := col, header := text }]) where
  order := by
    have hkept : [col].removeAll (headings.map (·.col)) = [col] := by
      rw [List.removeAll, List.filter_cons_of_pos (by simpa using hnew), List.filter_nil]
    rw [List.map_append, List.map_append, h.order, List.map_singleton, List.map_singleton,
      List.eraseDups_append, hkept]
    rfl
  column c hc := by
    rcases List.mem_append.1 hc with hc | hc
    · obtain ⟨first, hfind, hheader, hsamples⟩ := h.column c hc
      exact ⟨first, by rw [List.find?_append, hfind, Option.some_or], hheader, hsamples⟩
    · obtain rfl := List.mem_singleton.1 hc
      have hnone : headings.find? (·.col == col) = none := by
        refine List.find?_eq_none.2 fun heading hmem hcol => hnew ?_
        exact List.mem_map.2 ⟨heading, hmem, beq_iff_eq.1 hcol⟩
      refine ⟨⟨row, col, text⟩, ?_, rfl, ?_⟩
      · rw [List.find?_append, hnone, Option.none_or]
        exact List.find?_cons_of_pos (beq_self_eq_true col)
      · rw [List.filter_eq_nil_iff.2 fun r hr => by simpa using (habove r hr).le, List.map_nil]

/-- Reading one cell. -/
theorem Captured.readCell (h : Captured w headings dataRows columns)
    (habove : ∀ r ∈ dataRows, r < row) (kind : DirectiveKind) (col : Nat) (text : String) :
    Captured w (headings ++ (heading? kind row text col).toList) dataRows
      (readCell kind col text columns) := by
  rw [SheetPress.readCell, heading?]
  by_cases hany : columns.any (·.templateCol == col) = true
  · rw [if_pos hany]
    have htold := h.tell kind col text
    split
    · exact htold.heading_of_mem ((h.any_iff col).1 hany)
    · rwa [Option.toList_none, List.append_nil]
  · rw [if_neg hany]
    split
    · exact h.heading_of_notMem habove text (mt (h.any_iff col).2 hany)
    · rwa [Option.toList_none, List.append_nil]

/-- Reading the cells of a row. -/
theorem Captured.readCells (h : Captured w headings dataRows columns)
    (habove : ∀ r ∈ dataRows, r < row) {sheet : String} {cells : List String}
    (hread : readCells sheet kind row col cells columns = .ok columns') :
    Captured w (headings ++ headingsFrom kind row col cells) dataRows columns' := by
  induction cells generalizing col headings columns with
  | nil =>
    obtain rfl := Except.ok.inj hread
    rwa [headingsFrom, List.zipIdx_nil, List.filterMap_nil, List.append_nil]
  | cons text cells ih =>
    rw [SheetPress.readCells] at hread
    split at hread
    · rw [headingsFrom_cons, ← List.append_assoc]
      exact ih (h.readCell habove kind col text) hread
    · cases hread

/-- The cells of a row are read up to the last column of a sheet. -/
theorem exists_readCells {cells : List String} (hcells : col + cells.length ≤ maxColumns)
    (sheet : String) (kind : DirectiveKind) (row : Nat) (columns : List TableColumn) :
    ∃ columns', readCells sheet kind row col cells columns = .ok columns' := by
  induction cells generalizing col columns with
  | nil => exact ⟨columns, rfl⟩
  | cons text cells ih =>
    rw [List.length_cons] at hcells
    rw [readCells, if_pos (by omega)]
    exact ih (by omega) _

/-- Reading a data row; its cells are as they were in the sheet that the columns are made of. -/
theorem Captured.takeSamples (h : Captured w headings dataRows columns) {w' : Worksheet}
    (habove : ∀ heading ∈ headings, heading.row < row)
    (hsample : ∀ col, w'.sample ⟨row, col⟩ = w.sample ⟨row, col⟩) :
    Captured w headings (dataRows ++ [row]) (takeSamples row w' columns).2 where
  order := by
    rw [← h.order, SheetPress.takeSamples, List.map_map]
    rfl
  column _ hmem := by
    obtain ⟨c, hc, rfl⟩ := List.mem_map.1 hmem
    obtain ⟨heading, hfind, hheader, hsamples⟩ := h.column c hc
    have hrow : heading.row < row := habove heading (List.mem_of_find?_eq_some hfind)
    refine ⟨heading, hfind, hheader, ?_⟩
    rw [List.filter_append, List.map_append, List.filter_cons_of_pos (by simpa using hrow),
      List.filter_nil, ← hsamples, hsample]
    rfl

end Captured

/-! ## Cells that were sampled -/

/-- The cells that the samples of columns were taken from. -/
def samplePlaces (columns : List TableColumn) : List Coord :=
  columns.flatMap fun c => c.samples.map fun sample => ⟨sample.row, c.templateCol⟩

section SamplePlaces

variable {w : Worksheet} {headings : List Heading} {dataRows : List Nat}
  {columns columns' : List TableColumn}

/-- Samples stand in data rows. -/
theorem Captured.row_mem (h : Captured w headings dataRows columns) {place : Coord}
    (hplace : place ∈ samplePlaces columns) : place.row ∈ dataRows := by
  obtain ⟨c, hc, hmem⟩ := List.mem_flatMap.1 hplace
  obtain ⟨sample, hsample, rfl⟩ := List.mem_map.1 hmem
  obtain ⟨heading, -, -, hsamples⟩ := h.column c hc
  rw [hsamples] at hsample
  obtain ⟨row, hrow, rfl⟩ := List.mem_map.1 hsample
  exact (List.mem_filter.1 hrow).1

theorem samplePlaces_readCell (kind : DirectiveKind) (col : Nat) (text : String)
    (columns : List TableColumn) :
    samplePlaces (readCell kind col text columns) = samplePlaces columns := by
  unfold readCell
  split
  · unfold samplePlaces
    rw [List.flatMap_map]
    congr 1
    funext c
    split
    · rw [samples_tell, templateCol_tell]
    · rfl
  · split
    · rw [samplePlaces, List.flatMap_append]
      exact List.append_nil _
    · rfl

/-- Rows without data give no samples. -/
theorem samplePlaces_readCells {sheet : String} {kind : DirectiveKind} {row col : Nat}
    {cells : List String} (h : readCells sheet kind row col cells columns = .ok columns') :
    samplePlaces columns' = samplePlaces columns :=
  readCells_preserves (P := fun _ read => samplePlaces read = samplePlaces columns)
    (fun text hsame => (samplePlaces_readCell kind _ text _).trans hsame) rfl h

theorem mem_samplePlaces_takeSamples {row : Nat} {place : Coord} :
    place ∈ samplePlaces columns ++ samplePlacesIn row columns ↔
      place ∈ samplePlaces (takeSamples row w columns).2 := by
  simp only [samplePlaces, samplePlacesIn, takeSamples, List.mem_append, List.mem_flatMap,
    List.mem_map, exists_exists_and_eq_and, List.mem_singleton]
  constructor
  · rintro (⟨c, hc, sample, hsample, rfl⟩ | ⟨c, hc, rfl⟩)
    · exact ⟨c, hc, sample, .inl hsample, rfl⟩
    · exact ⟨c, hc, _, .inr rfl, rfl⟩
  · rintro ⟨c, hc, sample, hsample | rfl, rfl⟩
    · exact .inl ⟨c, hc, sample, hsample, rfl⟩
    · exact .inr ⟨c, hc, rfl⟩

end SamplePlaces

/-! ## Rows -/

/-- What has been read from the rows in front of row `next` of the sheet `w₀`, and the sheet that is
left of it. -/
structure SchemaRead (w₀ : Worksheet) (next : Nat) (w : Worksheet) (plan : TablePlan) : Prop where
  below : ∀ d ∈ plan.directives, d.row < next
  captured : Captured w₀ (headingsOf plan.directives) (dataRowsOf plan.directives) plan.columns
  sheet : w = w₀.withoutFormulas (samplePlaces plan.columns)

section Rows

variable {labels : DirectiveLabels} {w₀ w w' : Worksheet} {plan plan' : TablePlan} {row : Nat}

theorem SchemaRead.init (w : Worksheet) : SchemaRead w 0 w {} where
  below _ h := absurd h List.not_mem_nil
  captured := ⟨rfl, fun _ h => absurd h List.not_mem_nil⟩
  sheet := w.withoutFormulas_nil.symm

theorem SchemaRead.row_lt_of_heading (h : SchemaRead w₀ row w plan) :
    ∀ heading ∈ headingsOf plan.directives, heading.row < row := by
  intro heading hmem
  obtain ⟨d, hd, hheading⟩ := List.mem_flatMap.1 hmem
  rw [row_of_mem_headings hheading]
  exact h.below d hd

theorem SchemaRead.row_lt_of_data (h : SchemaRead w₀ row w plan) :
    ∀ r ∈ dataRowsOf plan.directives, r < row := by
  intro r hmem
  obtain ⟨d, hd, rfl⟩ := List.mem_map.1 hmem
  exact h.below d (List.mem_filter.1 hd).1

/-- Nothing has been taken out of the rows that are still to be read. -/
theorem SchemaRead.sample (h : SchemaRead w₀ row w plan) (col : Nat) :
    w.sample ⟨row, col⟩ = w₀.sample ⟨row, col⟩ := by
  rw [h.sheet, Worksheet.sample_withoutFormulas]
  intro hmem
  exact (h.row_lt_of_data _ (h.captured.row_mem hmem)).false

/-- A row with a directive takes its place behind those that were read. -/
theorem SchemaRead.directive (h : SchemaRead w₀ row w plan) {d : DirectiveRow} (hd : d.row = row)
    {w' : Worksheet} {columns : List TableColumn} {firstRow : Option Nat}
    (hcaptured : Captured w₀ (headingsOf plan.directives ++ d.headings)
      (dataRowsOf plan.directives ++ dataRowsOf [d]) columns)
    (hsheet : w' = w₀.withoutFormulas (samplePlaces columns)) :
    SchemaRead w₀ (row + 1) w' ⟨columns, plan.directives ++ [d], firstRow⟩ where
  below d' hd' := by
    rcases List.mem_append.1 hd' with hd' | hd'
    · exact (h.below d' hd').trans (Nat.lt_succ_self row)
    · rw [List.mem_singleton.1 hd', hd]
      exact Nat.lt_succ_self row
  captured := by
    rwa [headingsOf, List.flatMap_append, List.flatMap_singleton, dataRowsOf, List.filter_append,
      List.map_append]
  sheet := hsheet

/-- Reading one more row of a sheet. -/
theorem SchemaRead.readRow (h : SchemaRead w₀ row w plan) {cells : List String}
    (hread : readRow labels row cells (w, plan) = .ok (w', plan')) :
    SchemaRead w₀ (row + 1) w' plan' := by
  rcases readRow_cases hread with
    ⟨-, rfl, rfl⟩ | ⟨kind, columns, -, rfl, ⟨rfl, rfl, rfl⟩ | ⟨hdata, rfl, hcolumns⟩⟩
  · exact { h with below := fun d hd => (h.below d hd).trans (Nat.lt_succ_self row) }
  · refine h.directive rfl ?_ ?_
    · rw [DirectiveRow.headings, headingsFrom_of_ne DirectiveKind.noConfusion, List.append_nil]
      exact h.captured.takeSamples h.row_lt_of_heading h.sample
    · rw [takeSamples_fst, h.sheet, Worksheet.withoutFormulas_withoutFormulas]
      exact Worksheet.withoutFormulas_congr fun _ => mem_samplePlaces_takeSamples
  · refine h.directive rfl ?_ ?_
    · have hnone : dataRowsOf [⟨kind, row, cells⟩] = [] := by
        rw [dataRowsOf, List.filter_cons_of_neg (by simpa using hdata)]
        rfl
      rw [hnone, List.append_nil]
      exact h.captured.readCells h.row_lt_of_data hcolumns
    · rw [samplePlaces_readCells hcolumns]
      exact h.sheet

theorem directives_readRow {cells : List String}
    (hread : readRow labels row cells (w, plan) = .ok (w', plan')) :
    plan'.directives = plan.directives ++ (directiveRow? labels cells row).toList := by
  rw [directiveRow?]
  rcases readRow_cases hread with ⟨hkind, -, rfl⟩ | ⟨kind, columns, hkind, rfl, -⟩
  · rw [hkind]
    exact (List.append_nil _).symm
  · rw [hkind]
    rfl

theorem directives_readRows {rows : List (List String)}
    (hread : readRows labels row rows (w, plan) = .ok (w', plan')) :
    plan'.directives = plan.directives ++ directiveRows labels row rows := by
  induction rows generalizing row w plan with
  | nil =>
    obtain ⟨-, rfl⟩ := Prod.mk.inj (Except.ok.inj hread)
    exact (List.append_nil _).symm
  | cons cells rows ih =>
    obtain ⟨⟨w₁, plan₁⟩, hrow, hrest⟩ := exists_of_readRows_cons hread
    rw [ih hrest, directives_readRow hrow, directiveRows_cons, List.append_assoc]

/-- A row within the limits of a sheet is read. -/
theorem exists_readRow (labels : DirectiveLabels) {cells : List String} (hrow : row < maxRows)
    (hcells : cells.length ≤ maxColumns) (w : Worksheet) (plan : TablePlan) :
    ∃ w' plan', readRow labels row cells (w, plan) = .ok (w', plan') := by
  rw [readRow]
  cases cells.head?.bind labels.directive? with
  | none => exact ⟨w, plan, rfl⟩
  | some kind =>
    have hfit : 1 + (cells.drop 1).length ≤ maxColumns := by
      have : 1 ≤ maxColumns := by decide
      rw [List.length_drop]
      omega
    obtain ⟨columns, hread⟩ := exists_readCells hfit w.name kind row plan.columns
    dsimp only
    rw [if_neg (Nat.not_le.2 hrow)]
    cases kind <;> first | exact ⟨_, _, rfl⟩ | exact ⟨_, _, congrArg (Except.map _) hread⟩

/-- Rows within the limits of a sheet are read. -/
theorem exists_readRows (labels : DirectiveLabels) {rows : List (List String)}
    (hrows : row + rows.length ≤ maxRows) (hcells : ∀ cells ∈ rows, cells.length ≤ maxColumns)
    (w : Worksheet) (plan : TablePlan) :
    ∃ w' plan', readRows labels row rows (w, plan) = .ok (w', plan') := by
  induction rows generalizing row w plan with
  | nil => exact ⟨w, plan, rfl⟩
  | cons cells rows ih =>
    rw [List.length_cons] at hrows
    obtain ⟨hfits, hcells⟩ := List.forall_mem_cons.1 hcells
    have hrow : row < maxRows := by omega
    obtain ⟨w₁, plan₁, hread⟩ := exists_readRow labels hrow hfits w plan
    rw [readRows, hread]
    exact ih (by omega) hcells w₁ plan₁

/-- Reading all rows of a sheet. -/
theorem SchemaRead.readRows (h : SchemaRead w₀ row w plan) (labels : DirectiveLabels)
    {rows : List (List String)} (hrows : row + rows.length ≤ maxRows)
    (hcells : ∀ cells ∈ rows, cells.length ≤ maxColumns) :
    ∃ w' plan', readRows labels row rows (w, plan) = .ok (w', plan') ∧
      plan'.directives = plan.directives ++ directiveRows labels row rows ∧
      SchemaRead w₀ (row + rows.length) w' plan' := by
  obtain ⟨w', plan', hread⟩ := exists_readRows labels hrows hcells w plan
  exact ⟨w', plan', hread, directives_readRows hread,
    readRows_preserves (fun hschema hrow => hschema.readRow hrow) h hread⟩

/-- What has been read when all rows of a template have been. -/
theorem schemaRead_of_compileTable {rows : List (List String)}
    (h : compileTable labels w rows = .ok (w', plan)) :
    plan.directives = directiveRows labels 0 rows ∧ SchemaRead w rows.length w' plan :=
  ⟨directives_readRows h, Nat.zero_add rows.length ▸
    readRows_preserves (fun hread hrow => hread.readRow hrow) (SchemaRead.init w) h⟩

end Rows

/-! ## Main result -/

/-- A template in which a second header row opens a column on the left of one that is there. -/
def taxRows : List (List String) :=
  [["", "Sales"], ["Header", "Item", " ", "Total"], ["Data"], ["Header", "", "Tax", "Sum"],
    ["Data", "", ""]]

/-- Its sheet has formulas in both data rows. -/
def taxSheet : Worksheet where
  name := "Sales"
  grid := (({} : Grid).set ⟨2, 2⟩ { formula := some "=A1", style := 3 }).set ⟨4, 2⟩
    { formula := some "=D5/5", style := 7 }

end SheetPress
