import SheetPress.Proofs.Sheet.Lines
import SheetPress.Proofs.Template.Rows
import SheetPress.Template.Report

/-!
# What is outside of a table

Writing the table of a template moves what stands outside of it: directive rows beyond the first
three go, and so does the first column; rows for the records come in between.  `TablePlan.rendered`
says where a cell ends up.

* `TablePlan.showsAt_strip` — stripping the scaffolding takes every other cell where it belongs.
* `showsAt_reserveRows` — so does making room for the records.
* `writeTable_keeps` — every cell outside of the table is kept, and no record is written over it.
-/

namespace SheetPress

/-! ## Rows deleted from the bottom up -/

/-- Where a row is when others have been deleted: the deleted rows above it count. -/
def rowAfter (removed : List Nat) (row : Nat) : Nat := row - removed.countP (· < row)

section RowAfter

variable {k row row' bound : Nat} {removed : List Nat}

/-- The lowest row is deleted first; the rows above stay where they are. -/
theorem rowAfter_cons (hlast : ∀ j ∈ removed, j < k) (row : Nat) :
    rowAfter (k :: removed) row = rowAfter removed (if k < row then row - 1 else row) := by
  unfold rowAfter
  by_cases hk : k < row
  · have hall : ∀ n, k ≤ n → removed.countP (· < n) = removed.length := by
      intro n hn
      rw [List.countP_eq_length]
      intro j hj
      have := hlast j hj
      simp only [decide_eq_true_eq]
      omega
    rw [if_pos hk, List.countP_cons_of_pos (by simpa using hk), hall row (by omega),
      hall (row - 1) (by omega)]
    omega
  · rw [if_neg hk, List.countP_cons_of_neg (by simpa using hk)]

theorem notMem_after (hlast : ∀ j ∈ removed, j < k) (hrow : row ∉ k :: removed) :
    (if k < row then row - 1 else row) ∉ removed := by
  split
  · intro hmem
    have := hlast _ hmem
    omega
  · exact List.not_mem_of_not_mem_cons hrow

/-- No two rows that stay end up as one. -/
theorem rowAfter_inj (hsorted : removed.Pairwise (· > ·)) (hrow : row ∉ removed)
    (hrow' : row' ∉ removed) (h : rowAfter removed row = rowAfter removed row') : row = row' := by
  induction removed generalizing row row' with
  | nil => exact h
  | cons k removed ih =>
    obtain ⟨hlast, hsorted⟩ := List.pairwise_cons.1 hsorted
    have hk := List.ne_of_not_mem_cons hrow
    have hk' := List.ne_of_not_mem_cons hrow'
    rw [rowAfter_cons hlast, rowAfter_cons hlast] at h
    have heq := ih hsorted (notMem_after hlast hrow) (notMem_after hlast hrow') h
    split at heq <;> split at heq <;> omega

/-- A row behind a bound stays behind it if all deleted rows are. -/
theorem le_rowAfter (hsorted : removed.Pairwise (· > ·)) (hrow : row ∉ removed)
    (hremoved : ∀ j ∈ removed, bound ≤ j) (h : bound ≤ row) : bound ≤ rowAfter removed row := by
  induction removed generalizing row with
  | nil => exact h
  | cons k removed ih =>
    obtain ⟨hlast, hsorted⟩ := List.pairwise_cons.1 hsorted
    have hk := hremoved k (List.mem_cons_self ..)
    have hne := List.ne_of_not_mem_cons hrow
    rw [rowAfter_cons hlast]
    refine ih hsorted (notMem_after hlast hrow) (fun j hj => hremoved j (List.mem_cons_of_mem _ hj)) ?_
    split <;> omega

/-- A row in front of all deleted rows stays. -/
theorem rowAfter_of_lt (hremoved : ∀ j ∈ removed, row < j) : rowAfter removed row = row := by
  have hnone : removed.countP (· < row) = 0 := by
    rw [List.countP_eq_zero]
    intro j hj
    have := hremoved j hj
    simp only [decide_eq_true_eq]
    omega
  rw [rowAfter, hnone, Nat.sub_zero]

end RowAfter

/-! ## Cells that are moved -/

/-- A cell with a value and a style is stored at a place. -/
def Worksheet.ShowsAt (w : Worksheet) (place : Coord) (value : CellValue) (style : Nat) : Prop :=
  ∃ cell, w.cell? place = some cell ∧ cell.value = value ∧ cell.style = style

section Shows

variable {w : Worksheet} {place target : Coord} {value : CellValue} {style : Nat}

theorem Worksheet.ShowsAt.mapFormula {w' : Worksheet} {f : String → String}
    (h : w.ShowsAt place value style) (hcell : w'.cell? target = (w.cell? place).map (·.mapFormula f)) :
    w'.ShowsAt target value style := by
  obtain ⟨cell, hget, hvalue, hstyle⟩ := h
  exact ⟨cell.mapFormula f, by rw [hcell, hget, Option.map_some], hvalue, hstyle⟩

theorem Worksheet.ShowsAt.removeRow {removed : Nat} (h : w.ShowsAt place value style)
    (hrow : place.row ≠ removed) :
    (w.removeRow removed).ShowsAt
      ⟨if removed < place.row then place.row - 1 else place.row, place.col⟩ value style := by
  refine h.mapFormula (w.cell?_removeRow ?_)
  rw [Coord.removeRow?, movedByRemove_eq]
  split_ifs with hlt hgt hgt
  · omega
  · rfl
  · rfl
  · omega

theorem Worksheet.ShowsAt.removeFirstCol (h : w.ShowsAt place value style) (hcol : 1 ≤ place.col) :
    (w.removeCol 0).ShowsAt ⟨place.row, place.col - 1⟩ value style := by
  refine h.mapFormula (w.cell?_removeCol ?_)
  rw [Coord.removeCol?, movedByRemove_eq, if_neg (Nat.not_lt_zero _), if_neg (by omega)]
  rfl

/-- Rows are deleted from the bottom up. -/
theorem Worksheet.ShowsAt.removeRows {removed : List Nat} (hsorted : removed.Pairwise (· > ·))
    (h : w.ShowsAt place value style) (hrow : place.row ∉ removed) :
    (removed.foldl Worksheet.removeRow w).ShowsAt ⟨rowAfter removed place.row, place.col⟩ value
      style := by
  induction removed generalizing w place with
  | nil => exact h
  | cons k removed ih =>
    obtain ⟨hlast, hsorted⟩ := List.pairwise_cons.1 hsorted
    rw [List.foldl_cons, rowAfter_cons hlast]
    exact ih hsorted (h.removeRow (List.ne_of_not_mem_cons hrow)) (notMem_after hlast hrow)

theorem Worksheet.ShowsAt.insertRows (h : w.ShowsAt place value style) (start count : Nat) :
    (w.insertRows start count).ShowsAt ⟨movedByInsert start count place.row, place.col⟩ value
      style := by
  by_cases hcount : count = 0
  · rw [hcount, Worksheet.insertRows, if_pos rfl, show movedByInsert start 0 place.row = place.row
      from ite_self _]
    exact h
  · exact h.mapFormula (w.get?_insertRows start hcount place)

theorem Worksheet.ShowsAt.of_cell?_eq {w' : Worksheet} (h : w.ShowsAt place value style)
    (hcell : w'.cell? place = w.cell? place) : w'.ShowsAt place value style := by
  obtain ⟨cell, hget, hshown⟩ := h
  exact ⟨cell, hcell.trans hget, hshown⟩

end Shows

/-! ## Taking out the scaffolding -/

namespace TablePlan

/-- The rows that are deleted, from the bottom up. -/
def strippedRows (plan : TablePlan) : List Nat := (plan.directives.drop keptRows).reverse.map (·.row)

/-- A place in no directive row and not in the first column. -/
def Outside (plan : TablePlan) (place : Coord) : Prop :=
  (∀ d ∈ plan.directives, d.row ≠ place.row) ∧ 1 ≤ place.col

/-- Where a row of the template is in the finished sheet with `count` records, when the header is in
row `header`: directive rows above it are gone but for the first three, and rows are inserted for the
records that two rows do not hold. -/
def renderedRow (plan : TablePlan) (header count row : Nat) : Nat :=
  row - (plan.directives.drop keptRows).countP (·.row < row) +
    if 2 < count ∧ header + 2 < row then count - 2 else 0

/-- Where a cell of the template is in the finished sheet. -/
def rendered (plan : TablePlan) (header count : Nat) (place : Coord) : Coord :=
  ⟨plan.renderedRow header count place.row, place.col - 1⟩

/-- The table begins in three rows that follow each other, the first of them a header row. -/
structure BeginsAt (plan : TablePlan) (header : Nat) : Prop where
  first : ∃ d, plan.directives[0]? = some d ∧ d.kind = .header ∧ d.row = header
  second : plan.directives[1]?.map (·.row) = some (header + 1)
  third : plan.directives[2]?.map (·.row) = some (header + 2)

variable {plan : TablePlan} {header : Nat}

theorem rowAfter_strippedRows (plan : TablePlan) (row : Nat) :
    rowAfter plan.strippedRows row =
      row - (plan.directives.drop keptRows).countP (·.row < row) := by
  rw [rowAfter, strippedRows, List.countP_map, List.countP_reverse]
  rfl

theorem foldl_strippedRows (plan : TablePlan) (w : Worksheet) :
    plan.strip w = (plan.strippedRows.foldl Worksheet.removeRow w).removeCol 0 := by
  rw [strip, strippedRows, List.foldl_map]

theorem sorted_strippedRows (hsorted : (plan.directives.map (·.row)).Pairwise (· < ·)) :
    plan.strippedRows.Pairwise (· > ·) := by
  rw [strippedRows, List.map_reverse, List.pairwise_reverse, List.map_drop]
  exact hsorted.sublist (List.drop_sublist ..)

theorem notMem_strippedRows {place : Coord} (h : plan.Outside place) :
    place.row ∉ plan.strippedRows := by
  intro hmem
  obtain ⟨d, hd, heq⟩ := List.mem_map.1 hmem
  exact h.1 d (List.mem_of_mem_drop (List.mem_reverse.1 hd)) heq

/-- Only rows below the first three directive rows are deleted. -/
theorem le_of_mem_strippedRows (hsorted : (plan.directives.map (·.row)).Pairwise (· < ·))
    (hbegins : plan.BeginsAt header) : ∀ row ∈ plan.strippedRows, header + 3 ≤ row := by
  intro row hrow
  obtain ⟨d, hd, rfl⟩ := List.mem_map.1 hrow
  obtain ⟨third, hthird, hheader⟩ := Option.map_eq_some_iff.1 hbegins.third
  obtain ⟨i, hi⟩ := List.getElem?_of_mem (List.mem_reverse.1 hd)
  rw [List.getElem?_drop] at hi
  obtain ⟨htwo, rfl⟩ := List.getElem?_eq_some_iff.1 hthird
  obtain ⟨hlt, rfl⟩ := List.getElem?_eq_some_iff.1 hi
  have hbelow := List.pairwise_iff_getElem.1 (List.pairwise_map.1 hsorted) 2 (keptRows + i) htwo hlt
    (by rw [keptRows]; omega)
  omega

/-- Stripping takes every cell outside of the table where it belongs. -/
theorem showsAt_strip {w : Worksheet} {place : Coord} {value : CellValue} {style : Nat}
    (hsorted : (plan.directives.map (·.row)).Pairwise (· < ·)) (hplace : plan.Outside place)
    (h : w.ShowsAt place value style) :
    (plan.strip w).ShowsAt ⟨rowAfter plan.strippedRows place.row, place.col - 1⟩ value style := by
  rw [foldl_strippedRows]
  exact (h.removeRows (sorted_strippedRows hsorted) (notMem_strippedRows hplace)).removeFirstCol
    hplace.2

/-- A place outside of the table is above the header row or below the rows that stay. -/
theorem Outside.lt_or_lt {place : Coord} (h : plan.Outside place) (hbegins : plan.BeginsAt header) :
    place.row < header ∨ header + 2 < place.row := by
  obtain ⟨first, hfirst, -, hrow⟩ := hbegins.first
  obtain ⟨second, hsecond, hrow₁⟩ := Option.map_eq_some_iff.1 hbegins.second
  obtain ⟨third, hthird, hrow₂⟩ := Option.map_eq_some_iff.1 hbegins.third
  have h₀ := h.1 first (List.mem_of_getElem? hfirst)
  have h₁ := h.1 second (List.mem_of_getElem? hsecond)
  have h₂ := h.1 third (List.mem_of_getElem? hthird)
  omega

/-- A row above the header stays; one below the table ends up behind the rows of the records. -/
theorem renderedRow_spec (hsorted : (plan.directives.map (·.row)).Pairwise (· < ·))
    (hbegins : plan.BeginsAt header) {place : Coord} (hplace : plan.Outside place) (count : Nat) :
    place.row < header ∧ rowAfter plan.strippedRows place.row = place.row ∧
        plan.renderedRow header count place.row = place.row ∨
      header + 2 < place.row ∧ header + 3 ≤ rowAfter plan.strippedRows place.row ∧
        plan.renderedRow header count place.row =
          rowAfter plan.strippedRows place.row + (count - 2) := by
  have hremoved := le_of_mem_strippedRows hsorted hbegins
  rw [renderedRow, ← rowAfter_strippedRows]
  rcases hplace.lt_or_lt hbegins with habove | hbelow
  · left
    have hstay : rowAfter plan.strippedRows place.row = place.row :=
      rowAfter_of_lt fun j hj => by
        have := hremoved j hj
        omega
    rw [hstay, if_neg (by omega)]
    exact ⟨habove, rfl, rfl⟩
  · right
    refine ⟨hbelow, le_rowAfter (sorted_strippedRows hsorted) (notMem_strippedRows hplace) hremoved
      hbelow, ?_⟩
    split <;> omega

/-- No two cells outside of the table end up at one place. -/
theorem rendered_inj (hsorted : (plan.directives.map (·.row)).Pairwise (· < ·))
    (hbegins : plan.BeginsAt header) {count : Nat} {p q : Coord} (hp : plan.Outside p)
    (hq : plan.Outside q) (h : plan.rendered header count p = plan.rendered header count q) :
    p = q := by
  obtain ⟨hrow, hcol⟩ := Coord.mk.inj h
  have hafter : rowAfter plan.strippedRows p.row = rowAfter plan.strippedRows q.row := by
    rcases renderedRow_spec hsorted hbegins hp count with hp | hp <;>
      rcases renderedRow_spec hsorted hbegins hq count with hq | hq <;> omega
  have hrow := rowAfter_inj (sorted_strippedRows hsorted) (notMem_strippedRows hp)
    (notMem_strippedRows hq) hafter
  have hcol' : p.col = q.col := by
    have := hp.2
    have := hq.2
    omega
  cases p
  cases q
  exact congrArg₂ Coord.mk hrow hcol'

end TablePlan

/-! ## Making room and writing -/

section Write

variable {w : Worksheet} {place : Coord} {value : CellValue} {style : Nat} {header count : Nat}

/-- Making room moves the cells behind the two rows that are there, and keeps those above. -/
theorem showsAt_reserveRows {row : Nat} (h : w.ShowsAt place value style)
    (hrow : place.row < header ∧ row = place.row ∨
      header + 3 ≤ place.row ∧ row = place.row + (count - 2)) :
    (reserveRows (header + 1) count w).ShowsAt ⟨row, place.col⟩ value style := by
  have hclear : ∀ w : Worksheet, ∀ k, header < k → k < header + 3 →
      (w.clearRow k).cell? place = w.cell? place := fun w k hlow hhigh =>
    w.cell?_clearRow_of_ne (by omega)
  match count with
  | 0 =>
    obtain rfl : row = place.row := by omega
    refine h.of_cell?_eq ?_
    exact (hclear _ (header + 2) (by omega) (by omega)).trans
      (hclear w (header + 1) (by omega) (by omega))
  | 1 =>
    obtain rfl : row = place.row := by omega
    exact h.of_cell?_eq (hclear w (header + 2) (by omega) (by omega))
  | count + 2 =>
    have hmoved : movedByInsert (header + 2) count place.row = row := by
      rw [movedByInsert_eq]
      split <;> omega
    rw [← hmoved]
    exact h.insertRows (header + 2) count

/-- A table that was written has its rows reserved, and rows written if there are records. -/
theorem writeTable_cases {job : TableJob} {records : List Record} {styles styles' : StyleRegistry}
    {final : Worksheet} (h : Renderer.writeTable job records styles w = .ok (final, styles')) :
    records = [] ∧ final = reserveRows job.firstRow 0 w ∧ styles' = styles ∨
      records ≠ [] ∧ ∃ s,
        job.writeRows records { sheet := reserveRows job.firstRow records.length w, styles } =
            ⟨s, none⟩ ∧
          final = s.sheet ∧ styles' = s.styles := by
  unfold Renderer.writeTable at h
  cases records with
  | nil =>
    obtain ⟨rfl, rfl⟩ := Prod.mk.inj (Except.ok.inj h)
    exact .inl ⟨rfl, rfl, rfl⟩
  | cons record records =>
    rw [List.isEmpty_cons, if_neg Bool.false_ne_true] at h
    split at h
    · cases h
    · split at h
      · next s hwrite =>
        obtain ⟨rfl, rfl⟩ := Prod.mk.inj (Except.ok.inj h)
        exact .inr ⟨List.cons_ne_nil _ _, s, hwrite, rfl, rfl⟩
      · cases h

/-- Cells have changed only on the rows of records. -/
theorem cell?_writeTable {job : TableJob} {records : List Record} {styles styles' : StyleRegistry}
    {final : Worksheet} (h : Renderer.writeTable job records styles w = .ok (final, styles')) {p : Coord}
    (hp : ∀ i < records.length, p.row ≠ job.firstRow + i) :
    final.cell? p = (reserveRows job.firstRow records.length w).cell? p := by
  obtain ⟨rfl, rfl, -⟩ | ⟨-, s, hwrite, rfl, -⟩ := writeTable_cases h
  · rfl
  · obtain ⟨s₁, hrun, -, hcells⟩ := TableJob.writeRecords_of_writeRows hwrite
    have hother : ∀ i < records.length, ∀ column ∈ job.plan.columns,
        p ≠ job.place (0 + i) column := by
      intro i hi column _ heq
      have := congrArg Coord.row heq
      simp only [TableJob.place, Nat.zero_add] at this
      exact hp i hi this
    have hkept := TableJob.cell?_writeRecords_of_ne 0 records
      { sheet := reserveRows job.firstRow records.length w, styles } hother
    rw [hrun] at hkept
    exact (hcells p).trans hkept

end Write

/-- Writing a table keeps everything outside of it.  The plan is read from a sheet, its first three
directive rows follow each other from the first header row on, and the table is written into the
stripped sheet without failure.  Then, for any number of records:

* every cell in no directive row and not in the first column is found where `rendered` says, with its
  value and its style;
* no two of these cells are at one place;
* none of them is on the row of a record. -/
theorem writeTable_keeps {labels : DirectiveLabels} {template left final : Worksheet}
    {rows : List (List String)} {job : TableJob} {records : List Record}
    {styles styles' : StyleRegistry} {header : Nat}
    (hplan : compileTable labels template rows = .ok (left, job.plan))
    (hbegins : job.plan.BeginsAt header) (hfirst : job.plan.firstRow = some job.firstRow)
    (h : Renderer.writeTable job records styles (job.plan.strip left) = .ok (final, styles')) :
    (∀ place cell, template.cell? place = some cell → job.plan.Outside place →
      ∃ cell', final.cell? (job.plan.rendered header records.length place) = some cell' ∧
        cell'.value = cell.value ∧ cell'.style = cell.style) ∧
    (∀ p q, job.plan.Outside p → job.plan.Outside q →
      job.plan.rendered header records.length p = job.plan.rendered header records.length q →
        p = q) ∧
    ∀ p, job.plan.Outside p → ∀ i < records.length, ∀ column,
      job.plan.rendered header records.length p ≠ job.place i column := by
  have hread := planRead_of_compileTable hplan
  have hrow : job.firstRow = header + 1 := by
    obtain ⟨d, hd, hkind, rfl⟩ := hbegins.first
    obtain ⟨rest, hrest⟩ : ∃ rest, job.plan.directives = d :: rest := by
      cases hlist : job.plan.directives with
      | nil => rw [hlist] at hd; cases hd
      | cons first rest =>
        rw [hlist] at hd
        obtain rfl := Option.some.inj hd
        exact ⟨rest, rfl⟩
    have hfound := hread.firstRow
    rw [hfirst, hrest, List.find?_cons_of_pos (by simpa using hkind)] at hfound
    exact Option.some.inj hfound
  have hapart : ∀ p, job.plan.Outside p → ∀ i < records.length,
      job.plan.renderedRow header records.length p.row ≠ job.firstRow + i := by
    intro p hp i hi
    rcases TablePlan.renderedRow_spec hread.sorted hbegins hp records.length with hspec | hspec <;>
      omega
  refine ⟨fun place cell hcell hplace => ?_, fun p q hp hq heq => ?_, fun p hp i hi column heq => ?_⟩
  · have hleft : left.ShowsAt place cell.value cell.style :=
      ⟨cell, (hread.kept place hplace.1).trans hcell, rfl, rfl⟩
    have hstripped := TablePlan.showsAt_strip hread.sorted hplace hleft
    have hspec := TablePlan.renderedRow_spec hread.sorted hbegins hplace records.length
    have hreserved : (reserveRows (header + 1) records.length (job.plan.strip left)).ShowsAt
        (job.plan.rendered header records.length place) cell.value cell.style := by
      refine showsAt_reserveRows hstripped ?_
      dsimp only
      omega
    refine hreserved.of_cell?_eq ?_
    rw [← hrow]
    exact cell?_writeTable h (hapart place hplace)
  · exact TablePlan.rendered_inj hread.sorted hbegins hp hq heq
  · exact hapart p hp i hi (congrArg Coord.row heq)

/-- The plan of the orders has its header in the second row. -/
theorem beginsAt_orderPlan : orderPlan.BeginsAt 1 := ⟨⟨_, rfl, rfl, rfl⟩, rfl, rfl⟩

/-- Three orders are written into a template with two samples: the title stays above the table, and
the footer, above which one sample is deleted and one row inserted, is in the row it had. -/
theorem writeTable_keeps_orders : ∃ final styles',
    Renderer.writeTable orderJob orderRecords .initial (orderPlan.strip orderTemplate) =
        .ok (final, styles') ∧
      (∃ cell, final.cell? ⟨0, 0⟩ = some cell ∧ cell.value = .text "Orders" ∧ cell.style = 0) ∧
      (∃ cell, final.cell? ⟨5, 0⟩ = some cell ∧ cell.value = .text "End" ∧ cell.style = 0) ∧
      ∀ p, orderPlan.Outside p → ∀ i < 3, ∀ column,
        orderPlan.rendered 1 3 p ≠ orderJob.place i column := by
  have hrun : Renderer.writeTable orderJob orderRecords .initial (orderPlan.strip orderTemplate) =
      .ok (_, _) := rfl
  obtain ⟨hkept, -, hapart⟩ := writeTable_keeps compileTable_orderTemplate beginsAt_orderPlan rfl hrun
  have htitle : orderPlan.Outside ⟨0, 1⟩ := ⟨by decide, by decide⟩
  have hfooter : orderPlan.Outside ⟨5, 1⟩ := ⟨by decide, by decide⟩
  exact ⟨_, _, hrun, hkept ⟨0, 1⟩ _ rfl htitle, hkept ⟨5, 1⟩ _ rfl hfooter, hapart⟩

end SheetPress
