import Mathlib
import SheetPress.Proofs.Evaluation.Covered
import SheetPress.Proofs.Formula.WholeLines
import SheetPress.Proofs.Sheet.InsertRows
import SheetPress.Proofs.Sheet.LostReferences

/-!
# Whole columns and rows in an edited sheet

When rows are inserted, or a row or a column is deleted, the references of a formula to whole columns
and rows stay as they are written, while the cells move.  Such a reference keeps to its cells exactly
if the edit brings none of the stored cells into its lines and none out of them.  That is so on every
sheet if the edit lies behind its lines, and on no other condition.

* `LineEdit` — the insertion of rows and the deletion of a line, as one kind of edit.
* `LineEdit.found_sheet_iff` — when whole lines find the cells that they found before.
* `LineEdit.found_sheet_forall_iff` — they do so on every sheet if the edit lies behind them only.
* `Worksheet.ownLines_edit` — what the whole lines in a stored formula visit after an edit.
-/

namespace SheetPress

/-- An edit of the lines of a sheet. Lines are counted from 0. -/
inductive LineEdit where
  | insertion (start count : Nat)
  | removal (k : Removal)

namespace LineEdit

/-- A sheet after the edit. -/
def sheet : LineEdit → Worksheet → Worksheet
  | insertion start count, w => w.insertRows start count
  | removal k, w => k.sheet w

/-- Where a place is afterwards. The places of a deleted line are nowhere. -/
def place? : LineEdit → Coord → Option Coord
  | insertion start count, c => some (c.insertRows start count)
  | removal k, c => k.place? c

/-- The new text of a reference, if it moves. -/
def edit : LineEdit → Reference → Option String
  | insertion start count, r => r.insertRows? start count
  | removal k, r => k.edit r

/-- The text of a formula afterwards. -/
def formula (m : LineEdit) (formula : String) : String := mapReferences m.edit formula

/-- A cell afterwards: its value and its style stay. -/
def cell (m : LineEdit) (cell : Cell) : Cell := cell.mapFormula m.formula

/-- A stored cell with its place afterwards, if it is not on a deleted line. -/
def placed? (m : LineEdit) : Coord × Cell → Option (Coord × Cell)
  | (place, cell) => (m.place? place).map fun target => (target, m.cell cell)

/-! ## Stored cells -/

variable (m : LineEdit)

theorem formula_removal (k : Removal) : (removal k).formula = k.formula :=
  funext fun formula => (k.formula_eq formula).symm

theorem cell_removal (k : Removal) : (removal k).cell = k.cell := by
  funext cell
  rw [LineEdit.cell, formula_removal]
  rfl

/-- An insertion of no rows changes no cell. -/
theorem cell_insertion_zero (start : Nat) : (insertion start 0).cell = id := by
  funext cell
  have hformula : (insertion start 0).formula = id := funext fun _ => shiftRowsForInsert_zero _
  obtain ⟨formula, value, style⟩ := cell
  rw [LineEdit.cell, hformula, Cell.mapFormula, Option.map_id]
  rfl

theorem insertRows_zero (start : Nat) (c : Coord) : c.insertRows start 0 = c := by
  rw [Coord.insertRows, movedByInsert_eq, Nat.add_zero, ite_self]

theorem keepsOrder : Grid.KeepsOrder m.place? := by
  cases m with
  | insertion start count => exact keepsOrder_insertRows
  | removal k => exact k.keepsOrder

theorem get?_sheet (w : Worksheet) {place target : Coord} (h : m.place? place = some target) :
    (m.sheet w).grid.get? target = (w.grid.get? place).map m.cell := by
  cases m with
  | insertion start count =>
    obtain rfl := Option.some.inj h
    by_cases hcount : count = 0
    · subst hcount
      rw [insertRows_zero, cell_insertion_zero, Option.map_id]
      rfl
    · exact w.get?_insertRows start hcount place
  | removal k =>
    rw [cell_removal]
    exact k.cell?_sheet w h

theorem formula?_sheet (w : Worksheet) {place target : Coord} (h : m.place? place = some target) :
    (m.sheet w).formula? target = (w.formula? place).map m.formula := by
  rw [Worksheet.formula?, Worksheet.formula?, Worksheet.cell?, Worksheet.cell?, m.get?_sheet w h]
  cases w.grid.get? place <;> rfl

theorem toList_sheet (w : Worksheet) :
    (m.sheet w).grid.toList = w.grid.toList.filterMap m.placed? := by
  cases m with
  | insertion start count =>
    by_cases hcount : count = 0
    · subst hcount
      have hplaced : (insertion start 0).placed? = some := by
        funext entry
        simp only [placed?, place?, insertRows_zero, cell_insertion_zero]
        rfl
      rw [hplaced, List.filterMap_some]
      rfl
    · rw [show (insertion start count).sheet w = w.insertRows start count from rfl,
        w.toList_insertRows start hcount, ← List.filterMap_eq_map]
      rfl
  | removal k =>
    have hplaced : (removal k).placed? = k.placed? := by
      funext entry
      rw [placed?, cell_removal]
      rfl
    rw [hplaced]
    exact k.toList_sheet w

theorem placed?_eq_some_iff {entry entry' : Coord × Cell} :
    m.placed? entry = some entry' ↔ m.place? entry.1 = some entry'.1 ∧ entry'.2 = m.cell entry.2 := by
  constructor
  · intro h
    obtain ⟨target, htarget, rfl⟩ := Option.map_eq_some_iff.1 h
    exact ⟨htarget, rfl⟩
  · rintro ⟨hplace, hcell⟩
    rw [placed?, hplace, ← hcell]
    rfl

/-! ## Lines that move -/

/-- Where a row is afterwards. -/
def row? : LineEdit → Nat → Option Nat
  | insertion start count, row => some (movedByInsert start count row)
  | removal (.row removed), row => movedByRemove removed row
  | removal (.column _), row => some row

/-- Where a column is afterwards. -/
def col? : LineEdit → Nat → Option Nat
  | removal (.column removed), col => movedByRemove removed col
  | _, col => some col

theorem keepsLines_row? : KeepsLines m.row? := by
  match m with
  | insertion start count => exact keepsLines_insert start count
  | removal (.row removed) => exact keepsLines_remove removed
  | removal (.column _) => exact keepsLines_some

theorem keepsLines_col? : KeepsLines m.col? := by
  match m with
  | insertion _ _ => exact keepsLines_some
  | removal (.row _) => exact keepsLines_some
  | removal (.column removed) => exact keepsLines_remove removed

theorem place?_eq_some_iff {place target : Coord} :
    m.place? place = some target ↔
      m.row? place.row = some target.row ∧ m.col? place.col = some target.col := by
  have hcoord : ∀ row col, Coord.mk row col = target ↔ row = target.row ∧ col = target.col := by
    intro row col
    rw [Coord.mk.injEq]
  match m with
  | insertion start count =>
    simp only [place?, row?, col?, Option.some.injEq]
    exact hcoord _ _
  | removal (.row removed) =>
    simp only [place?, Removal.place?, Coord.removeRow?, row?, col?, Option.map_eq_some_iff, hcoord,
      Option.some.injEq]
    constructor
    · rintro ⟨row, hrow, rfl, hcol⟩
      exact ⟨hrow, hcol⟩
    · rintro ⟨hrow, hcol⟩
      exact ⟨_, hrow, rfl, hcol⟩
  | removal (.column removed) =>
    simp only [place?, Removal.place?, Coord.removeCol?, row?, col?, Option.map_eq_some_iff, hcoord,
      Option.some.injEq]
    constructor
    · rintro ⟨col, hcol, hrow, rfl⟩
      exact ⟨hrow, hcol⟩
    · rintro ⟨hrow, hcol⟩
      exact ⟨_, hcol, hrow, rfl⟩

/-- Some row is left, and some column. -/
theorem exists_line : (∃ row row', m.row? row = some row') ∧ ∃ col col', m.col? col = some col' := by
  have hremove : ∀ removed, movedByRemove removed (removed + 1) = some removed := by
    intro removed
    rw [movedByRemove_eq, if_neg (by omega), if_neg (by omega), Nat.add_sub_cancel]
  match m with
  | insertion start count => exact ⟨⟨0, _, rfl⟩, 0, 0, rfl⟩
  | removal (.row removed) => exact ⟨⟨_, _, hremove removed⟩, 0, 0, rfl⟩
  | removal (.column removed) => exact ⟨⟨0, 0, rfl⟩, _, _, hremove removed⟩

end LineEdit

/-- A move of lines takes none into a span and none out of it. -/
def KeepsSpan (f : Nat → Option Nat) (low high : Nat) : Prop :=
  ∀ x x', f x = some x' → (low ≤ x' ∧ x' ≤ high ↔ low ≤ x ∧ x ≤ high)

section Spans

variable {low high : Nat}

theorem keepsSpan_some (low high : Nat) : KeepsSpan some low high := by
  rintro x x' ⟨⟩
  rfl

/-- A line behind the deleted one moves into the span or out of it, unless the span lies in front. -/
theorem keepsSpan_remove_iff (hspan : low ≤ high) (removed : Nat) :
    KeepsSpan (movedByRemove removed) low high ↔ high < removed := by
  constructor
  · intro h
    by_contra hle
    -- the line behind the span moves into it
    have := h (high + 1) high (by
      rw [movedByRemove_eq, if_neg (by omega), if_neg (by omega), Nat.add_sub_cancel])
    omega
  · intro hlt x x' hx
    rw [movedByRemove_eq] at hx
    split_ifs at hx <;> simp only [Option.some.injEq] at hx <;> omega

/-- The last line of the span moves out of it, unless the span lies in front of the new rows. -/
theorem keepsSpan_insert_iff (hspan : low ≤ high) (start count : Nat) :
    KeepsSpan (fun x => some (movedByInsert start count x)) low high ↔
      count = 0 ∨ high < start := by
  constructor
  · intro h
    by_contra hne
    have := h high (high + count) (congrArg some (if_pos (by omega)))
    omega
  · rintro hkept x x' hx
    simp only [Option.some.injEq, movedByInsert_eq] at hx
    split_ifs at hx <;> omega

end Spans

/-! ## What whole lines find -/

namespace LineEdit

variable (m : LineEdit)

/-- The edit lies behind the lines of a reference, or leaves lines of their kind in their places. -/
def Behind : LineEdit → Expr → Prop
  | insertion start count, .rows _ a b => count = 0 ∨ max (a - 1) (b - 1) < start
  | removal (.row removed), .rows _ a b => max (a - 1) (b - 1) < removed
  | removal (.column removed), .columns _ a b =>
    max (columnIndex a.column.toList) (columnIndex b.column.toList) < removed
  | _, _ => True

/-- The edit takes no place into the lines of a reference and none out of them. -/
def KeepsPlaces (r : Expr) : Prop :=
  ∀ place target, m.place? place = some target → (r.Covers target ↔ r.Covers place)

theorem keepsPlaces_columns_iff (sheet : Option String) (a b : ColumnRef) :
    m.KeepsPlaces (.columns sheet a b) ↔
      KeepsSpan m.col? (min (columnIndex a.column.toList) (columnIndex b.column.toList))
        (max (columnIndex a.column.toList) (columnIndex b.column.toList)) := by
  constructor
  · intro h col col' hcol
    obtain ⟨row, row', hrow⟩ := m.exists_line.1
    exact h ⟨row, col⟩ ⟨row', col'⟩ (m.place?_eq_some_iff.2 ⟨hrow, hcol⟩)
  · intro h place target hplace
    exact h place.col target.col (m.place?_eq_some_iff.1 hplace).2

theorem keepsPlaces_rows_iff (sheet : Option String) (a b : Nat) :
    m.KeepsPlaces (.rows sheet a b) ↔
      KeepsSpan m.row? (min (a - 1) (b - 1)) (max (a - 1) (b - 1)) := by
  constructor
  · intro h row row' hrow
    obtain ⟨col, col', hcol⟩ := m.exists_line.2
    exact h ⟨row, col⟩ ⟨row', col'⟩ (m.place?_eq_some_iff.2 ⟨hrow, hcol⟩)
  · intro h place target hplace
    exact h place.row target.row (m.place?_eq_some_iff.1 hplace).1

theorem keepsPlaces_iff_behind {r : Expr} (hr : r.isOwnLines = true) :
    m.KeepsPlaces r ↔ m.Behind r := by
  match r, hr with
  | .columns none a b, _ =>
    rw [keepsPlaces_columns_iff]
    match m with
    | insertion _ _ => exact iff_of_true (keepsSpan_some _ _) trivial
    | removal (.row _) => exact iff_of_true (keepsSpan_some _ _) trivial
    | removal (.column removed) => exact keepsSpan_remove_iff min_le_max removed
  | .rows none a b, _ =>
    rw [keepsPlaces_rows_iff]
    match m with
    | insertion start count => exact keepsSpan_insert_iff min_le_max start count
    | removal (.row removed) => exact keepsSpan_remove_iff min_le_max removed
    | removal (.column _) => exact iff_of_true (keepsSpan_some _ _) trivial

variable {r : Expr}

theorem mem_found_iff (hr : r.isOwnLines = true) {g : Grid} {entry : Coord × Cell} :
    entry ∈ r.found g ↔ g.get? entry.1 = some entry.2 ∧ r.Covers entry.1 := by
  match r, hr with
  | .columns none a b, _ =>
    simp [Expr.found, Grid.columnEntries, Expr.Covers, ← Grid.mem_toList]
  | .rows none a b, _ =>
    simp [Expr.found, Grid.rowEntries, Expr.Covers, ← Grid.mem_toList]

/-- Whole lines find the cells that they found before, less those of a deleted line, exactly if the
edit takes no stored cell into them and none out of them. -/
theorem found_sheet_iff (w : Worksheet) (hr : r.isOwnLines = true) :
    r.found (m.sheet w).grid = (r.found w.grid).filterMap m.placed? ↔
      ∀ place cell target, w.grid.get? place = some cell → m.place? place = some target →
        (r.Covers target ↔ r.Covers place) := by
  constructor
  · intro h place cell target hcell hplace
    have hmem : (target, m.cell cell) ∈ r.found (m.sheet w).grid ↔ r.Covers target := by
      rw [mem_found_iff hr, m.get?_sheet w hplace, hcell]
      exact and_iff_right rfl
    rw [← hmem, h, List.mem_filterMap]
    constructor
    · rintro ⟨entry, hfound, hplaced⟩
      have htarget := (m.placed?_eq_some_iff.1 hplaced).1
      rw [← m.keepsOrder.separates _ _ _ htarget hplace]
      exact ((mem_found_iff hr).1 hfound).2
    · intro hcovers
      exact ⟨(place, cell), (mem_found_iff hr).2 ⟨hcell, hcovers⟩,
        m.placed?_eq_some_iff.2 ⟨hplace, rfl⟩⟩
  · intro h
    have hcovers : ∀ p ∈ w.grid.toList, ∀ p', m.placed? p = some p' →
        (r.Covers p'.1 ↔ r.Covers p.1) := fun p hp p' hp' =>
      h p.1 p.2 p'.1 (Grid.mem_toList.1 hp) (m.placed?_eq_some_iff.1 hp').1
    match r, hr with
    | .columns none a b, _ =>
      exact Grid.columnEntries_of_toList (m.toList_sheet w) m.keepsLines_row? m.keepsLines_col?
        (fun p p' hp => m.place?_eq_some_iff.1 (m.placed?_eq_some_iff.1 hp).1) hcovers
    | .rows none a b, _ => exact Grid.rowEntries_of_toList (m.toList_sheet w) hcovers

/-- Whole lines keep to their cells on every sheet exactly if the edit lies behind them. -/
theorem found_sheet_forall_iff (hr : r.isOwnLines = true) :
    (∀ w : Worksheet, r.found (m.sheet w).grid = (r.found w.grid).filterMap m.placed?) ↔
      m.Behind r := by
  rw [← m.keepsPlaces_iff_behind hr]
  constructor
  · intro h place target hplace
    -- a sheet with one cell at the place tells
    have hfound := h { name := "", grid := ({} : Grid).set place {} }
    rw [m.found_sheet_iff _ hr] at hfound
    refine hfound place {} target ?_ hplace
    rw [Grid.get?_set, if_pos rfl]
  · intro h w
    rw [m.found_sheet_iff w hr]
    exact fun place _ target _ hplace => h place target hplace

end LineEdit

/-! ## The text of formulas -/

section Text

variable {ref : Reference} {g g' : CellRef → CellRef}

/-- The corners of a reference are moved, each to a corner with a column. -/
theorem Reference.proper_spelling_map (h : ref.spelling.Proper)
    (hg : ∀ a, a.corner.Proper → (g a).corner.Proper)
    (hg' : ∀ a, a.corner.Proper → (g' a).corner.Proper) (qualified : Bool) :
    (Reference.spelling ⟨g ref.first, ref.last.map g', qualified⟩).Proper := by
  refine ⟨hg _ h.1, fun corner hcorner => ?_⟩
  obtain ⟨b, hb, rfl⟩ := Option.map_eq_some_iff.1 hcorner
  obtain ⟨a, ha, rfl⟩ := Option.map_eq_some_iff.1 hb
  exact hg' a (h.2 _ (Option.map_eq_some_iff.2 ⟨a, ha, rfl⟩))

theorem CellRef.proper_withRow {a : CellRef} (row : Nat) (h : a.corner.Proper) :
    CornerText.Proper (CellRef.corner { a with row := row }) :=
  CellRef.proper_corner h.letters_ne_nil h.isUpper

theorem CellRef.proper_withColumn (a : CellRef) (col : Nat) : (a.withColumn col).corner.Proper := by
  have hcolumn := a.toList_column_withColumn col
  exact CellRef.proper_corner (hcolumn ▸ columnLetters_ne_nil col)
    fun c hc => isUpper_of_mem_columnLetters c (hcolumn ▸ hc)

end Text

namespace LineEdit

variable (m : LineEdit)

/-- What an edit writes is a reference with its columns in capitals, or the reference error. -/
theorem writesReferences : WritesReferences m.edit := by
  intro ref new hproper hnew
  -- the corners of the reference are moved
  have hmoved : ∀ {g g' : CellRef → CellRef} {qualified : Bool},
      (∀ a, a.corner.Proper → (g a).corner.Proper) →
      (∀ a, a.corner.Proper → (g' a).corner.Proper) →
      some (Reference.text ⟨g ref.first, ref.last.map g', qualified⟩) = some new →
      ∃ r : Reference, r.spelling.Proper ∧ (ref.last = none → r.last = none) ∧ new = r.text := by
    intro g g' qualified hg hg' hnew
    refine ⟨_, Reference.proper_spelling_map hproper hg hg' qualified, fun hlast => ?_,
      (Option.some.inj hnew).symm⟩
    rw [hlast]
    rfl
  match m with
  | insertion start count =>
    simp only [edit, Reference.insertRows?] at hnew
    split at hnew
    · cases hnew
    · exact .inr (hmoved (fun a => CellRef.proper_withRow _) (fun a => CellRef.proper_withRow _) hnew)
  | removal (.row removed) =>
    simp only [edit, Removal.edit, Reference.removeRow?] at hnew
    split at hnew
    · cases hnew
    · split at hnew
      · cases hnew
      · exact .inl (Option.some.inj hnew).symm
      · exact .inr (hmoved (fun a => CellRef.proper_withRow _) (fun a => CellRef.proper_withRow _)
          hnew)
  | removal (.column removed) =>
    simp only [edit, Removal.edit, Reference.removeCol?] at hnew
    split at hnew
    · cases hnew
    · split at hnew
      · split at hnew
        · cases hnew
        · exact .inl (Option.some.inj hnew).symm
        · exact .inr (hmoved (fun a _ => a.proper_withColumn _) (fun a _ => a.proper_withColumn _)
            hnew)
      · cases hnew

/-- A reference to cells of the own sheet keeps to its cells under an edit. -/
def Keeps : LineEdit → Expr → Prop
  | insertion _ count, r => r.FitsInsertion count
  | removal k, r => r.Survives k

/-- A reference afterwards. Whole columns and rows are not rewritten. -/
def reference : LineEdit → Expr → Expr
  | insertion start count, r => r.insertRows start count
  | removal k, r => r.remove k

theorem editedTo_reference {r : Expr} (hr : r.isOwnLines = true ∨ m.Keeps r) (hwritten : r.Written) :
    EditedTo m.edit r (m.reference r) := by
  rcases hr with hr | hr
  · match m, r, hr with
    | insertion _ _, .columns none _ _, _ => rfl
    | insertion _ _, .rows none _ _, _ => rfl
    | removal _, .columns none _ _, _ => rfl
    | removal _, .rows none _ _, _ => rfl
  · cases m with
    | insertion start count => exact editedTo_insertRows hr hwritten
    | removal k => exact editedTo_remove hr hwritten

/-- A plain formula parses after an edit if it loses none of its references. -/
theorem parseFormula_formula {formula : String} {e : Expr} (h : IsPlain formula e)
    (hkeeps : ∀ r ∈ e.references, r.isOwnLines = true ∨ m.Keeps r) :
    parseFormula (m.formula formula) = .ok (e.mapReferences m.reference) :=
  h.parseFormula_mapReferences fun r hr =>
    m.editedTo_reference (hkeeps r hr) (written_of_parseFormula h.parses r hr)

end LineEdit

/-! ## Formulas of a sheet -/

/-- What a reference to whole lines visits before and after an edit: the stored cells that are found
in its lines, and these are the same ones exactly if the edit takes none of the stored cells into the
lines and none out of them.  On every sheet that is so if the edit lies behind the lines only. -/
structure VisitsLines (m : LineEdit) (w : Worksheet) (r : Expr) : Prop where
  before : (r.visit? (.single w.grid)).map (·.filterMap id) = some ((r.found w.grid).map (·.2))
  after : (r.visit? (.single (m.sheet w).grid)).map (·.filterMap id) =
    some ((r.found (m.sheet w).grid).map (·.2))
  found_iff : r.found (m.sheet w).grid = (r.found w.grid).filterMap m.placed? ↔
    ∀ place cell target, w.grid.get? place = some cell → m.place? place = some target →
      (r.Covers target ↔ r.Covers place)
  behind_iff : (∀ w : Worksheet, r.found (m.sheet w).grid = (r.found w.grid).filterMap m.placed?) ↔
    m.Behind r

theorem Expr.isLocal_of_isOwnLines {r : Expr} (hr : r.isOwnLines = true) : r.IsLocal := by
  match r, hr with
  | .columns none _ _, _ => trivial
  | .rows none _ _, _ => trivial

theorem visitsLines_edit (m : LineEdit) (w : Worksheet) {r : Expr} (hr : r.isOwnLines = true) :
    VisitsLines m w r where
  before := r.visit?_eq_found w.grid (Expr.isLocal_of_isOwnLines hr)
  after := r.visit?_eq_found (m.sheet w).grid (Expr.isLocal_of_isOwnLines hr)
  found_iff := m.found_sheet_iff w hr
  behind_iff := m.found_sheet_forall_iff hr

/-- A stored formula is found where its cell has moved to, and it refers to the same whole columns and
rows of its sheet as before.  A formula without blanks and small letters still parses if its other
references keep to their cells.  Each whole column or row keeps to its stored cells, less those of a
deleted line, exactly if the edit takes none of them into the lines and none out of them, which holds
on every sheet if the edit lies behind the lines only. -/
theorem Worksheet.ownLines_edit (m : LineEdit) (w : Worksheet) {place target : Coord}
    {formula : String} {e : Expr} (hplace : m.place? place = some target)
    (hformula : w.formula? place = some formula) (hparses : parseFormula formula = .ok e) :
    (m.sheet w).formula? target = some (m.formula formula) ∧
      (∀ e', parseFormula (m.formula formula) = .ok e' → e'.ownLines = e.ownLines) ∧
      (IsPlain formula e → (∀ r ∈ e.references, r.isOwnLines = true ∨ m.Keeps r) →
        ∃ e', parseFormula (m.formula formula) = .ok e') ∧
      ∀ r ∈ e.ownLines, VisitsLines m w r := by
  refine ⟨?_, fun e' he' => ownLines_mapReferences m.writesReferences hparses he',
    fun hplain hkeeps => ⟨_, m.parseFormula_formula hplain hkeeps⟩, fun r hr => ?_⟩
  · rw [m.formula?_sheet w hplace, hformula]
    rfl
  · exact visitsLines_edit m w (List.mem_filter.1 hr).2

/-- A sheet with a total of its third column in front of the cells of that column and the next one. -/
def columnTotalSheet : Worksheet where
  name := "Sheet1"
  grid := ((({} : Grid).set ⟨0, 1⟩ { formula := some "=SUM(C:C)" }).set ⟨0, 2⟩
    (.ofValue (.number 2.0))).set ⟨0, 3⟩ (.ofValue (.number 3.0))

theorem isPlain_columnTotal : IsPlain "=SUM(C:C)"
    (.call "SUM" [.columns none ⟨"C", false⟩ ⟨"C", false⟩]) where
  parses := by
    have htokens : tokenize "=SUM(C:C)" = [.symbol .equals, .name "SUM", .symbol .openParen,
        .name "C", .symbol .colon, .name "C", .symbol .closeParen] := by cbv
    have harg : Derives (.chain .comparison) [.name "C", .symbol .colon, .name "C"]
        (.columns none ⟨"C", false⟩ ⟨"C", false⟩) :=
      .of_primary (.reference .none (.columns rfl rfl))
    rw [parseFormula, htokens, parseTokens_eq_ok_iff]
    exact .of_primary
      (.call "SUM" [([.name "C", .symbol .colon, .name "C"], _)] (by simpa using harg))
  isBlank := forall_mem_of_all (by decide +kernel)
  isLower := forall_mem_of_all (by decide +kernel)

/-- The stored cells of the sheet. -/
def columnTotalCells : List (Coord × Cell) :=
  [(⟨0, 1⟩, { formula := some "=SUM(C:C)" }), (⟨0, 2⟩, .ofValue (.number 2.0)),
    (⟨0, 3⟩, .ofValue (.number 3.0))]

theorem mem_toList_columnTotalSheet {entry : Coord × Cell} :
    entry ∈ columnTotalSheet.grid.toList ↔ entry ∈ columnTotalCells := by
  obtain ⟨place, cell⟩ := entry
  simp only [Grid.mem_toList, columnTotalSheet, Grid.get?_set, columnTotalCells, List.mem_cons,
    List.not_mem_nil, or_false, Prod.mk.injEq]
  split_ifs <;> simp_all [eq_comm, Grid.get?]

theorem formula?_columnTotalSheet : columnTotalSheet.formula? ⟨0, 1⟩ = some "=SUM(C:C)" := by
  simp [Worksheet.formula?, Worksheet.cell?, columnTotalSheet, Grid.get?_set]

/-- The first column goes: the total still refers to the third one, from which its cell has moved. -/
theorem Worksheet.ownLines_edit_columnTotalSheet :
    (LineEdit.removal (.column 0)).place? ⟨0, 1⟩ = some ⟨0, 0⟩ ∧
      columnTotalSheet.formula? ⟨0, 1⟩ = some "=SUM(C:C)" ∧
      ((LineEdit.removal (.column 0)).sheet columnTotalSheet).formula? ⟨0, 0⟩ = some "=SUM(C:C)" ∧
      VisitsLines (.removal (.column 0)) columnTotalSheet
        (.columns none ⟨"C", false⟩ ⟨"C", false⟩) := by
  have hplace : (LineEdit.removal (.column 0)).place? ⟨0, 1⟩ = some ⟨0, 0⟩ := by decide
  have hrewritten : (LineEdit.removal (.column 0)).formula "=SUM(C:C)" = "=SUM(C:C)" := by
    decide +kernel
  have hlines := Worksheet.ownLines_edit (.removal (.column 0)) columnTotalSheet hplace
    formula?_columnTotalSheet isPlain_columnTotal.parses
  rw [hrewritten] at hlines
  exact ⟨hplace, formula?_columnTotalSheet, hlines.1, hlines.2.2.2 _ (List.mem_singleton_self _)⟩

/-- The total loses the cell of its column to the column in front and takes in the one behind. -/
theorem columnTotalSheet_leaves_column :
    parseFormula "=SUM(C:C)" = .ok (.call "SUM" [.columns none ⟨"C", false⟩ ⟨"C", false⟩]) ∧
      ((LineEdit.removal (.column 0)).sheet columnTotalSheet).formula? ⟨0, 0⟩ = some "=SUM(C:C)" ∧
      (∀ entry, entry ∈ (Expr.columns none ⟨"C", false⟩ ⟨"C", false⟩).found columnTotalSheet.grid ↔
        entry = (⟨0, 2⟩, .ofValue (.number 2.0))) ∧
      (∀ entry, entry ∈ (Expr.columns none ⟨"C", false⟩ ⟨"C", false⟩).found
          ((LineEdit.removal (.column 0)).sheet columnTotalSheet).grid ↔
        entry = (⟨0, 2⟩, .ofValue (.number 3.0))) ∧
      (LineEdit.removal (.column 0)).placed? (⟨0, 2⟩, .ofValue (.number 2.0)) =
        some (⟨0, 1⟩, .ofValue (.number 2.0)) := by
  have hplace : (LineEdit.removal (.column 0)).place? ⟨0, 1⟩ = some ⟨0, 0⟩ := by decide
  have hthird : ∀ (g : Grid) (cells : List (Coord × Cell)) (found : Coord × Cell),
      (∀ entry, entry ∈ g.toList ↔ entry ∈ cells) →
      cells.filter (fun entry => 2 ≤ entry.1.col ∧ entry.1.col ≤ 2) = [found] →
      ∀ entry, entry ∈ (Expr.columns none ⟨"C", false⟩ ⟨"C", false⟩).found g ↔ entry = found := by
    intro g cells found hcells hfilter entry
    rw [LineEdit.mem_found_iff rfl, ← Grid.mem_toList, hcells, ← List.mem_singleton, ← hfilter,
      List.mem_filter, decide_eq_true_iff]
    exact Iff.rfl
  refine ⟨isPlain_columnTotal.parses, ?_,
    hthird _ columnTotalCells _ (fun _ => mem_toList_columnTotalSheet) rfl,
    hthird _ (columnTotalCells.filterMap (LineEdit.removal (.column 0)).placed?) _ (fun entry => ?_)
      rfl, rfl⟩
  · rw [LineEdit.formula?_sheet _ _ hplace, formula?_columnTotalSheet]
    decide +kernel
  · rw [LineEdit.toList_sheet, List.mem_filterMap, List.mem_filterMap]
    simp only [mem_toList_columnTotalSheet]

end SheetPress
