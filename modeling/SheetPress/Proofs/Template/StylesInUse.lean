import SheetPress.Proofs.Sheet.Lines
import SheetPress.Proofs.Template.Plan
import SheetPress.Template.Report

/-!
# Styles in use

The cells of a template refer to styles by number.  Until records are written, no other numbers come
in: what happens to a sheet keeps `Worksheet.UsesBelow`, and the samples of its plan have styles of its
cells.

* `usesBelow_renderTexts`, `usesBelow_compileTable`, `usesBelow_strip`, `usesBelow_reserveRows` — the
  steps in their order.
-/

namespace SheetPress

/-- The styles of all stored cells have numbers below a bound. -/
def Worksheet.UsesBelow (w : Worksheet) (bound : Nat) : Prop :=
  ∀ place cell, w.cell? place = some cell → cell.style < bound

/-- So have the styles of all samples. -/
def samplesBelow (columns : List TableColumn) (bound : Nat) : Prop :=
  ∀ column ∈ columns, ∀ sample ∈ column.samples, sample.style < bound

section UsesBelow

variable {w w' : Worksheet} {bound : Nat}

theorem Worksheet.style_getD (w : Worksheet) (place : Coord) :
    ((w.cell? place).getD {}).style = w.style place := by
  rw [style]
  cases w.cell? place <;> rfl

theorem Worksheet.UsesBelow.style_lt (h : w.UsesBelow bound) (hbound : 0 < bound) (place : Coord) :
    w.style place < bound := by
  rw [style]
  cases hcell : w.cell? place with
  | none => exact hbound
  | some cell => exact h place cell hcell

/-- Writing one cell. -/
theorem Worksheet.UsesBelow.write (h : w.UsesBelow bound) {place : Coord} {written : Option Cell}
    (hcell : ∀ p, w'.cell? p = if p = place then written else w.cell? p)
    (hwritten : ∀ cell, written = some cell → cell.style < bound) : w'.UsesBelow bound := by
  intro p cell hget
  rw [hcell] at hget
  split at hget
  · exact hwritten cell hget
  · exact h p cell hget

theorem Worksheet.UsesBelow.setValue (h : w.UsesBelow bound) (hbound : 0 < bound) (place : Coord)
    (value : CellValue) : (w.setValue place value).UsesBelow bound := by
  refine h.write (fun p => w.cell?_setValue place p value) ?_
  rintro cell ⟨⟩
  exact lt_of_eq_of_lt (w.style_getD place) (h.style_lt hbound place)

theorem Worksheet.UsesBelow.dropFormula (h : w.UsesBelow bound) (place : Coord) :
    (w.dropFormula place).UsesBelow bound := by
  refine h.write (w.cell?_dropFormula place) ?_
  intro cell hcell
  obtain ⟨old, hold, rfl⟩ := Option.map_eq_some_iff.1 hcell
  exact h place old hold

theorem Worksheet.UsesBelow.clearCell (h : w.UsesBelow bound) (place : Coord) :
    (w.clearCell place).UsesBelow bound := by
  refine h.write (w.cell?_clearCell place) ?_
  intro cell hcell
  obtain ⟨old, hold, hkept⟩ := Option.bind_eq_some_iff.1 hcell
  split at hkept
  · cases hkept
  · obtain rfl := Option.some.inj hkept
    exact h place old hold

theorem Worksheet.UsesBelow.clearRow (h : w.UsesBelow bound) (row : Nat) :
    (w.clearRow row).UsesBelow bound := by
  have hfold (places : List Coord) (w : Worksheet) (h : w.UsesBelow bound) :
      (places.foldl Worksheet.clearCell w).UsesBelow bound := by
    induction places generalizing w with
    | nil => exact h
    | cons place places ih => exact ih _ (h.clearCell place)
  exact hfold _ w h

/-- Moving cells and editing their formulas. -/
theorem Worksheet.UsesBelow.move (h : w.UsesBelow bound) {f : Coord → Option Coord}
    (hf : Grid.Separates f) {edit : String → String}
    (hgrid : w'.grid = (w.grid.rekey f).mapCells (·.mapFormula edit)) : w'.UsesBelow bound := by
  intro p cell hget
  rw [Worksheet.cell?, hgrid, Grid.get?_mapCells] at hget
  obtain ⟨old, hold, rfl⟩ := Option.map_eq_some_iff.1 hget
  obtain ⟨place, hplace, -⟩ := (Grid.get?_rekey hf).1 hold
  exact h place old hplace

theorem Worksheet.UsesBelow.insertRows (h : w.UsesBelow bound) (start count : Nat) :
    (w.insertRows start count).UsesBelow bound := by
  by_cases hcount : count = 0
  · rw [Worksheet.insertRows, if_pos hcount]
    exact h
  · exact h.move keepsOrder_insertRows.separates (w.grid_insertRows start hcount)

theorem Worksheet.UsesBelow.removeRow (h : w.UsesBelow bound) (removed : Nat) :
    (w.removeRow removed).UsesBelow bound :=
  h.move (keepsOrder_removeRow removed).separates rfl

theorem Worksheet.UsesBelow.removeCol (h : w.UsesBelow bound) (removed : Nat) :
    (w.removeCol removed).UsesBelow bound :=
  h.move (keepsOrder_removeCol removed).separates rfl

end UsesBelow

/-! ## Reading the plan -/

section Plan

variable {w w' : Worksheet} {columns columns' : List TableColumn} {bound : Nat}

theorem samplesBelow_readCell (h : samplesBelow columns bound) (kind : DirectiveKind) (col : Nat)
    (text : String) : samplesBelow (readCell kind col text columns) bound := by
  intro c hc sample hsample
  unfold readCell at hc
  split at hc
  · obtain ⟨old, hold, rfl⟩ := List.mem_map.1 hc
    refine h old hold sample ?_
    split at hsample
    · rwa [samples_tell] at hsample
    · exact hsample
  · split at hc
    · obtain hold | hnew := List.mem_append.1 hc
      · exact h c hold sample hsample
      · rw [List.mem_singleton.1 hnew] at hsample
        cases hsample
    · exact h c hc sample hsample

theorem samplesBelow_readCells (h : samplesBelow columns bound) {sheet : String}
    {kind : DirectiveKind} {row col : Nat} {cells : List String}
    (hread : readCells sheet kind row col cells columns = .ok columns') :
    samplesBelow columns' bound :=
  readCells_preserves (P := fun _ columns => samplesBelow columns bound)
    (fun text h => samplesBelow_readCell h kind _ text) h hread

/-- New samples have the styles of their cells. -/
theorem samplesBelow_takeSamples (h : samplesBelow columns bound) (hw : w.UsesBelow bound)
    (hbound : 0 < bound) (row : Nat) : samplesBelow (takeSamples row w columns).2 bound := by
  intro c hc sample hsample
  obtain ⟨old, hold, rfl⟩ := List.mem_map.1 hc
  obtain hsample | hnew := List.mem_append.1 hsample
  · exact h old hold sample hsample
  · rw [List.mem_singleton.1 hnew]
    exact hw.style_lt hbound _

theorem usesBelow_takeSamples (hw : w.UsesBelow bound) (row : Nat) (columns : List TableColumn) :
    (takeSamples row w columns).1.UsesBelow bound := by
  unfold takeSamples
  dsimp only
  induction columns generalizing w with
  | nil => exact hw
  | cons c columns ih => exact ih (hw.dropFormula _)

theorem usesBelow_readRow {labels : DirectiveLabels} {row : Nat} {cells : List String}
    {plan plan' : TablePlan} (hw : w.UsesBelow bound) (h : samplesBelow plan.columns bound)
    (hbound : 0 < bound) (hread : readRow labels row cells (w, plan) = .ok (w', plan')) :
    w'.UsesBelow bound ∧ samplesBelow plan'.columns bound := by
  rcases readRow_cases hread with
    ⟨-, rfl, rfl⟩ | ⟨kind, columns, -, rfl, ⟨rfl, rfl, rfl⟩ | ⟨-, rfl, hcolumns⟩⟩
  · exact ⟨hw, h⟩
  · exact ⟨usesBelow_takeSamples hw row _, samplesBelow_takeSamples h hw hbound row⟩
  · exact ⟨hw, samplesBelow_readCells h hcolumns⟩

/-- Reading the plan takes formulas out of cells, and leaves their styles. -/
theorem usesBelow_compileTable {labels : DirectiveLabels} {rows : List (List String)}
    {plan : TablePlan} (hw : w.UsesBelow bound) (hbound : 0 < bound)
    (h : compileTable labels w rows = .ok (w', plan)) :
    w'.UsesBelow bound ∧ samplesBelow plan.columns bound :=
  readRows_preserves (P := fun _ w plan => w.UsesBelow bound ∧ samplesBelow plan.columns bound)
    (fun h hread => usesBelow_readRow h.1 h.2 hbound hread)
    ⟨hw, fun _ hc => absurd hc List.not_mem_nil⟩ h

theorem usesBelow_strip (hw : w.UsesBelow bound) (plan : TablePlan) :
    (plan.strip w).UsesBelow bound := by
  have hfold (directives : List DirectiveRow) (w : Worksheet) (hw : w.UsesBelow bound) :
      (directives.foldl (fun w d => w.removeRow d.row) w).UsesBelow bound := by
    induction directives generalizing w with
    | nil => exact hw
    | cons d directives ih => exact ih _ (hw.removeRow d.row)
  exact (hfold _ w hw).removeCol 0

theorem usesBelow_reserveRows (hw : w.UsesBelow bound) (first count : Nat) :
    (reserveRows first count w).UsesBelow bound := by
  unfold reserveRows
  split
  · exact (hw.clearRow first).clearRow (first + 1)
  · exact hw.clearRow (first + 1)
  · exact hw.insertRows (first + 1) _

end Plan

/-! ## Texts -/

section Texts

variable {r : Renderer} {data : Json} {w w' : Worksheet} {bound : Nat}

theorem usesBelow_renderCells {row col : Nat} {texts : List String} (hw : w.UsesBelow bound)
    (hbound : 0 < bound) (h : r.renderCells data row col texts w = .ok w') : w'.UsesBelow bound := by
  induction texts generalizing col w with
  | nil =>
    obtain rfl := Except.ok.inj h
    exact hw
  | cons text texts ih =>
    rw [Renderer.renderCells] at h
    split at h
    · cases htext : renderText r.functions data text with
      | error e => rw [htext] at h; cases h
      | ok rendered =>
        rw [htext] at h
        exact ih (hw.setValue hbound _ _) h
    · exact ih hw h

theorem usesBelow_renderTexts {row : Nat} {rows : List (List String)} (hw : w.UsesBelow bound)
    (hbound : 0 < bound) (h : r.renderTexts data row rows w = .ok w') : w'.UsesBelow bound := by
  induction rows generalizing row w with
  | nil =>
    obtain rfl := Except.ok.inj h
    exact hw
  | cons cells rows ih =>
    rw [Renderer.renderTexts] at h
    split at h
    · exact ih hw h
    · cases hcells : r.renderCells data row 0 cells w with
      | error e => rw [hcells] at h; cases h
      | ok w₁ =>
        rw [hcells] at h
        exact ih (usesBelow_renderCells hw hbound hcells) h

end Texts

end SheetPress
