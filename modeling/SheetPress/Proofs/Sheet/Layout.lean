import Mathlib
import SheetPress.Proofs.Coord.Regions
import SheetPress.Proofs.Sheet.InsertThenRemove
import SheetPress.Proofs.Sheet.LineReferences

/-!
# Layout that travels with the cells

Rows are inserted into a sheet, and rows and columns are deleted from it, in any number and order.
Cells, heights, widths, merged regions and the filtered region are moved one apart from the other, yet
they stay together: `Worksheet.Travels` says so for a sheet before and after some edits.

* `MovesSpans` — what an edit does to spans of lines, said once for rows and for columns.
* `LineEdit.travels_sheet`, `LineEdit.isLaidOut_sheet` — one edit.
* `Worksheet.layout_travels` — any run of edits.
-/

namespace SheetPress

/-! ## Spans of lines -/

/-- What becomes of spans of lines when the lines move: a span holds the lines that it held, as far as
they are left, and two spans have a line in common afterwards only if they had one before. -/
structure MovesSpans (lines : Nat → Option Nat) (span? : Nat → Nat → Option (Nat × Nat)) : Prop where
  le : ∀ {a b s}, a ≤ b → span? a b = some s → s.1 ≤ s.2
  holds : ∀ {a b s x x'}, a ≤ b → span? a b = some s → lines x = some x' →
    (s.1 ≤ x' ∧ x' ≤ s.2 ↔ a ≤ x ∧ x ≤ b)
  gone : ∀ {a b x x'}, a ≤ b → span? a b = none → lines x = some x' → ¬ (a ≤ x ∧ x ≤ b)
  meet : ∀ {a b c d s t}, a ≤ b → c ≤ d → span? a b = some s → span? c d = some t →
    s.1 ≤ t.2 → t.1 ≤ s.2 → a ≤ d ∧ c ≤ b

theorem movesSpans_some : MovesSpans some fun a b => some (a, b) where
  le := by rintro a b _ hab ⟨⟩; exact hab
  holds := by rintro a b _ x _ - ⟨⟩ ⟨⟩; rfl
  gone := by rintro a b x x' - ⟨⟩
  meet := by rintro a b c d _ _ - - ⟨⟩ ⟨⟩ had hcb; exact ⟨had, hcb⟩

/-- A span of lines after others were inserted: it moves if it begins behind them and grows around
them. -/
def growSpan (start count first last : Nat) : Nat × Nat :=
  if first ≥ start then (first + count, last + count)
  else if last ≥ start then (first, last + count)
  else (first, last)

theorem growSpan_eq {first last : Nat} (h : first ≤ last) (start count : Nat) :
    growSpan start count first last =
      (movedByInsert start count first, movedByInsert start count last) := by
  unfold growSpan
  rw [movedByInsert_eq, movedByInsert_eq]
  split_ifs <;> first | rfl | omega

theorem movesSpans_insert (start count : Nat) :
    MovesSpans (fun x => some (movedByInsert start count x))
      fun a b => some (growSpan start count a b) := by
  have hmono : ∀ {x y}, movedByInsert start count x ≤ movedByInsert start count y ↔ x ≤ y := by
    intro x y
    rw [movedByInsert_eq, movedByInsert_eq]
    split_ifs <;> omega
  refine ⟨?_, ?_, ?_, ?_⟩
  · rintro a b _ hab ⟨⟩
    rw [growSpan_eq hab]
    exact hmono.2 hab
  · rintro a b _ x _ hab ⟨⟩ ⟨⟩
    rw [growSpan_eq hab]
    exact and_congr hmono hmono
  · rintro a b x x' - ⟨⟩
  · rintro a b c d _ _ hab hcd ⟨⟩ ⟨⟩ had hcb
    rw [growSpan_eq hab, growSpan_eq hcd] at had hcb
    exact ⟨hmono.1 had, hmono.1 hcb⟩

/-- The deleted line is behind a span, in front of it, all of it, or one of its lines. -/
theorem shrinkSpan_cases {first last : Nat} (h : first ≤ last) (removed : Nat) :
    last < removed ∧ shrinkSpan first last removed = some (first, last) ∨
      removed < first ∧ shrinkSpan first last removed = some (first - 1, last - 1) ∨
      first = removed ∧ last = removed ∧ shrinkSpan first last removed = none ∨
      first ≤ removed ∧ removed ≤ last ∧ first < last ∧
        shrinkSpan first last removed = some (first, last - 1) := by
  unfold shrinkSpan
  split_ifs with hbehind hfront hall
  · exact .inl ⟨hbehind, rfl⟩
  · exact .inr (.inl ⟨hfront, rfl⟩)
  · exact .inr (.inr (.inl ⟨by omega, by omega, rfl⟩))
  · exact .inr (.inr (.inr ⟨by omega, by omega, by omega, rfl⟩))

theorem movesSpans_remove (removed : Nat) :
    MovesSpans (movedByRemove removed) fun a b => shrinkSpan a b removed := by
  refine ⟨?_, ?_, ?_, ?_⟩
  · intro a b s hab hs
    rcases shrinkSpan_cases hab removed with ⟨_, h⟩ | ⟨_, h⟩ | ⟨_, _, h⟩ | ⟨_, _, _, h⟩ <;>
      rw [h] at hs <;> cases hs <;> dsimp only <;> omega
  · intro a b s x x' hab hs hx
    rw [movedByRemove_eq] at hx
    rcases shrinkSpan_cases hab removed with ⟨_, h⟩ | ⟨_, h⟩ | ⟨_, _, h⟩ | ⟨_, _, _, h⟩ <;>
      rw [h] at hs <;> cases hs <;> dsimp only <;>
      split_ifs at hx <;> cases hx <;> omega
  · intro a b x x' hab hs hx
    rw [movedByRemove_eq] at hx
    rcases shrinkSpan_cases hab removed with ⟨_, h⟩ | ⟨_, h⟩ | ⟨ha, hb, h⟩ | ⟨_, _, _, h⟩ <;>
      rw [h] at hs <;> cases hs
    split_ifs at hx <;> omega
  · intro a b c d s t hab hcd hs ht had hcb
    rcases shrinkSpan_cases hab removed with ⟨_, h⟩ | ⟨_, h⟩ | ⟨_, _, h⟩ | ⟨_, _, _, h⟩ <;>
      rw [h] at hs <;> cases hs <;>
    rcases shrinkSpan_cases hcd removed with ⟨_, h'⟩ | ⟨_, h'⟩ | ⟨_, _, h'⟩ | ⟨_, _, _, h'⟩ <;>
      rw [h'] at ht <;> cases ht <;> dsimp only at had hcb <;> omega

/-! ## Lines and their sizes -/

theorem KeepsLines.inj {lines : Nat → Option Nat} (h : KeepsLines lines) {a b x : Nat}
    (ha : lines a = some x) (hb : lines b = some x) : a = b := by
  rcases Nat.lt_trichotomy a b with hab | hab | hab
  · exact absurd (h a b x x ha hb hab) (lt_irrefl x)
  · exact hab
  · exact absurd (h b a x x hb ha hab) (lt_irrefl x)

/-- Sizes after the lines were moved: a line has the size of the line that moved there, and a new line
has none of its own. -/
def LineSizes.MovesTo (lines : Nat → Option Nat) (sizes sizes' : LineSizes) : Prop :=
  ∀ line' size, sizes'[line']? = some size ↔
    ∃ line, lines line = some line' ∧ sizes[line]? = some size

namespace LineSizes

variable {lines lines' : Nat → Option Nat} {sizes sizes' sizes'' : LineSizes}

theorem movesTo_some (sizes : LineSizes) : MovesTo some sizes sizes := by
  intro line size
  simp

theorem movesTo_rekey (h : KeepsLines lines) (sizes : LineSizes) :
    MovesTo lines sizes (sizes.rekey lines) := by
  intro line' size
  rw [getElem?_rekey fun _ _ _ => h.inj]
  exact exists_congr fun _ => and_comm

theorem MovesTo.trans (h : MovesTo lines sizes sizes') (h' : MovesTo lines' sizes' sizes'') :
    MovesTo (fun line => (lines line).bind lines') sizes sizes'' := by
  intro line'' size
  rw [h']
  simp only [h _ size, Option.bind_eq_some_iff]
  constructor
  · rintro ⟨line', hline', line, hline, hsize⟩
    exact ⟨line, ⟨line', hline, hline'⟩, hsize⟩
  · rintro ⟨line, ⟨line', hline, hline'⟩, hsize⟩
    exact ⟨line', hline', line, hline, hsize⟩

end LineSizes

/-! ## Places -/

/-- Where a place is when its row and its column move. -/
def Coord.moved? (rows cols : Nat → Option Nat) (place : Coord) : Option Coord := do
  let row ← rows place.row
  let col ← cols place.col
  some ⟨row, col⟩

theorem Coord.moved?_eq_some_iff {rows cols : Nat → Option Nat} {place target : Coord} :
    place.moved? rows cols = some target ↔
      rows place.row = some target.row ∧ cols place.col = some target.col := by
  obtain ⟨row, col⟩ := target
  simp only [moved?, bind, Option.bind_eq_some_iff, Option.some.injEq, mk.injEq]
  constructor
  · rintro ⟨_, hrow, _, hcol, rfl, rfl⟩
    exact ⟨hrow, hcol⟩
  · rintro ⟨hrow, hcol⟩
    exact ⟨row, hrow, col, hcol, rfl, rfl⟩

/-- A place that moves twice. -/
theorem Coord.moved?_bind (rows cols rows' cols' : Nat → Option Nat) (place : Coord) :
    place.moved? (fun row => (rows row).bind rows') (fun col => (cols col).bind cols') =
      (place.moved? rows cols).bind (moved? rows' cols') := by
  refine Option.ext fun target => ?_
  simp only [Option.bind_eq_some_iff, moved?_eq_some_iff]
  constructor
  · rintro ⟨⟨row, hrow, hrow'⟩, col, hcol, hcol'⟩
    exact ⟨⟨row, col⟩, ⟨hrow, hcol⟩, hrow', hcol'⟩
  · rintro ⟨⟨row, col⟩, ⟨hrow, hcol⟩, hrow', hcol'⟩
    exact ⟨⟨row, hrow, hrow'⟩, col, hcol, hcol'⟩

/-- Places that move with lines which keep their order do not meet. -/
theorem Coord.moved?_inj {rows cols : Nat → Option Nat} (hrows : KeepsLines rows)
    (hcols : KeepsLines cols) {a b target : Coord} (ha : a.moved? rows cols = some target)
    (hb : b.moved? rows cols = some target) : a = b := by
  rw [moved?_eq_some_iff] at ha hb
  obtain ⟨row, col⟩ := a
  obtain ⟨row', col'⟩ := b
  exact congrArg₂ mk (hrows.inj ha.1 hb.1) (hcols.inj ha.2 hb.2)

namespace LineEdit

variable (m : LineEdit)

theorem place?_eq_moved? : m.place? = Coord.moved? m.row? m.col? := by
  funext place
  refine Option.ext fun target => ?_
  rw [m.place?_eq_some_iff, Coord.moved?_eq_some_iff]

/-- What becomes of a span of rows. -/
def rowSpan? : LineEdit → Nat → Nat → Option (Nat × Nat)
  | insertion start count, first, last => some (growSpan start count first last)
  | removal (.row removed), first, last => shrinkSpan first last removed
  | removal (.column _), first, last => some (first, last)

/-- What becomes of a span of columns. -/
def colSpan? : LineEdit → Nat → Nat → Option (Nat × Nat)
  | removal (.column removed), first, last => shrinkSpan first last removed
  | _, first, last => some (first, last)

/-- What becomes of a region. -/
def region? (r : Region) : Option Region := do
  let rows ← m.rowSpan? r.startRow r.endRow
  let cols ← m.colSpan? r.startCol r.endCol
  some ⟨rows.1, cols.1, rows.2, cols.2⟩

theorem movesSpans_row? : MovesSpans m.row? m.rowSpan? := by
  match m with
  | insertion start count => exact movesSpans_insert start count
  | removal (.row removed) => exact movesSpans_remove removed
  | removal (.column _) => exact movesSpans_some

theorem movesSpans_col? : MovesSpans m.col? m.colSpan? := by
  match m with
  | insertion _ _ => exact movesSpans_some
  | removal (.row _) => exact movesSpans_some
  | removal (.column removed) => exact movesSpans_remove removed

theorem region?_eq_some_iff {r r' : Region} :
    m.region? r = some r' ↔ m.rowSpan? r.startRow r.endRow = some (r'.startRow, r'.endRow) ∧
      m.colSpan? r.startCol r.endCol = some (r'.startCol, r'.endCol) := by
  obtain ⟨startRow, startCol, endRow, endCol⟩ := r'
  simp only [region?, bind, Option.bind_eq_some_iff, Option.some.injEq, Region.mk.injEq]
  constructor
  · rintro ⟨_, hrows, _, hcols, rfl, rfl, rfl, rfl⟩
    exact ⟨hrows, hcols⟩
  · rintro ⟨hrows, hcols⟩
    exact ⟨_, hrows, _, hcols, rfl, rfl, rfl, rfl⟩

variable {m} {r r' s s' : Region} {place target : Coord}

theorem isOrdered_region? (h : m.region? r = some r') (hr : r.IsOrdered) : r'.IsOrdered := by
  obtain ⟨hrows, hcols⟩ := m.region?_eq_some_iff.1 h
  exact ⟨m.movesSpans_row?.le hr.rows hrows, m.movesSpans_col?.le hr.cols hcols⟩

/-- A region holds the places that it held. -/
theorem holds_region? (h : m.region? r = some r') (hr : r.IsOrdered)
    (hplace : m.place? place = some target) : r'.Holds target ↔ r.Holds place := by
  obtain ⟨hrows, hcols⟩ := m.region?_eq_some_iff.1 h
  obtain ⟨hrow, hcol⟩ := m.place?_eq_some_iff.1 hplace
  rw [Region.holds_iff, Region.holds_iff]
  exact and_congr (m.movesSpans_row?.holds hr.rows hrows hrow)
    (m.movesSpans_col?.holds hr.cols hcols hcol)

/-- A region of which places are left is left. -/
theorem exists_region? (hr : r.IsOrdered) (hplace : m.place? place = some target)
    (hheld : r.Holds place) : ∃ r', m.region? r = some r' := by
  obtain ⟨hrow, hcol⟩ := m.place?_eq_some_iff.1 hplace
  rw [Region.holds_iff] at hheld
  cases hrows : m.rowSpan? r.startRow r.endRow with
  | none => exact absurd hheld.1 (m.movesSpans_row?.gone hr.rows hrows hrow)
  | some rows =>
    cases hcols : m.colSpan? r.startCol r.endCol with
    | none => exact absurd hheld.2 (m.movesSpans_col?.gone hr.cols hcols hcol)
    | some cols => exact ⟨⟨rows.1, cols.1, rows.2, cols.2⟩, m.region?_eq_some_iff.2 ⟨hrows, hcols⟩⟩

/-- Regions that are apart stay apart. Rows that are inserted into two of them do not bring them
together, as these have no column in common. -/
theorem isApart_region? (h : m.region? r = some r') (h' : m.region? s = some s') (hr : r.IsOrdered)
    (hs : s.IsOrdered) (hapart : r.IsApart s) : r'.IsApart s' := by
  obtain ⟨hrows, hcols⟩ := m.region?_eq_some_iff.1 h
  obtain ⟨hrows', hcols'⟩ := m.region?_eq_some_iff.1 h'
  rw [Region.isApart_iff hr hs] at hapart
  rw [Region.isApart_iff (isOrdered_region? h hr) (isOrdered_region? h' hs)]
  rintro ⟨⟨hrow, hrow'⟩, hcol, hcol'⟩
  exact hapart ⟨m.movesSpans_row?.meet hr.rows hs.rows hrows hrows' hrow hrow',
    m.movesSpans_col?.meet hr.cols hs.cols hcols hcols' hcol hcol'⟩

/-! ## Layout of a sheet after an edit -/

theorem region?_insertion (start count : Nat) :
    (insertion start count).region? = fun r => some (r.insertRows start count) := by
  funext r
  obtain ⟨startRow, startCol, endRow, endCol⟩ := r
  rw [region?_eq_some_iff]
  simp only [rowSpan?, colSpan?, growSpan, Region.insertRows]
  split_ifs <;> exact ⟨rfl, rfl⟩

theorem region?_removeRow (removed : Nat) :
    (removal (.row removed)).region? = Region.removeRow? removed := by
  funext r
  rw [region?, Region.removeRow?]
  simp only [rowSpan?]
  cases shrinkSpan r.startRow r.endRow removed <;> rfl

theorem region?_removeCol (removed : Nat) :
    (removal (.column removed)).region? = Region.removeCol? removed := by
  funext r
  rw [region?, Region.removeCol?]
  simp only [colSpan?]
  cases shrinkSpan r.startCol r.endCol removed <;> rfl

variable (m)

/-- Merged regions move, and some of those that are a single cell are dropped. -/
theorem merged_sheet (w : Worksheet) : ∃ keep : Region → Bool,
    (∀ r, r.isSingleCell = false → keep r = true) ∧
      (m.sheet w).merged = (w.merged.filterMap m.region?).filter keep := by
  match m with
  | insertion start count =>
    refine ⟨fun _ => true, fun _ _ => rfl, ?_⟩
    rw [region?_insertion, List.filterMap_eq_map', List.filter_true]
    exact w.merged_insertRows start count
  | removal (.row removed) =>
    refine ⟨(! ·.isSingleCell), fun r hr => congrArg not hr, ?_⟩
    rw [region?_removeRow]
    rfl
  | removal (.column removed) =>
    refine ⟨(! ·.isSingleCell), fun r hr => congrArg not hr, ?_⟩
    rw [region?_removeCol]
    rfl

theorem filter_sheet (w : Worksheet) : (m.sheet w).filter = w.filter.bind m.region? := by
  match m with
  | insertion start count =>
    rw [region?_insertion]
    exact (w.filter_insertRows start count).trans Option.map_eq_bind
  | removal (.row removed) =>
    rw [region?_removeRow]
    rfl
  | removal (.column removed) =>
    rw [region?_removeCol]
    rfl

theorem movesTo_rowHeights (w : Worksheet) :
    w.rowHeights.MovesTo m.row? (m.sheet w).rowHeights := by
  match m with
  | insertion start count =>
    rw [show (insertion start count).sheet w = w.insertRows start count from rfl,
      w.rowHeights_insertRows]
    exact w.rowHeights.movesTo_rekey (keepsLines_insert start count)
  | removal (.row removed) => exact w.rowHeights.movesTo_rekey (keepsLines_remove removed)
  | removal (.column _) => exact w.rowHeights.movesTo_some

theorem movesTo_columnWidths (w : Worksheet) :
    w.columnWidths.MovesTo m.col? (m.sheet w).columnWidths := by
  match m with
  | insertion start count =>
    rw [show (insertion start count).sheet w = w.insertRows start count from rfl,
      w.columnWidths_insertRows]
    exact w.columnWidths.movesTo_some
  | removal (.row _) => exact w.columnWidths.movesTo_some
  | removal (.column removed) => exact w.columnWidths.movesTo_rekey (keepsLines_remove removed)

end LineEdit

/-! ## Sheets -/

theorem Cell.mapFormula_mapFormula (f g : String → String) (cell : Cell) :
    (cell.mapFormula f).mapFormula g = cell.mapFormula (g ∘ f) := by
  rw [mapFormula, mapFormula, mapFormula, Option.map_map]

namespace Worksheet

/-- The regions of a sheet have their corners in order, and no two merged regions have a place in
common. -/
structure IsLaidOut (w : Worksheet) : Prop where
  merged : ∀ r ∈ w.merged, r.IsOrdered
  apart : w.merged.Pairwise Region.IsApart
  filter : ∀ r ∈ w.filter, r.IsOrdered

/-- Two places lie in a common merged region. -/
def Merges (w : Worksheet) (a b : Coord) : Prop := ∃ r ∈ w.merged, r.Holds a ∧ r.Holds b

/-- A place lies in the filtered region. -/
def Filters (w : Worksheet) (a : Coord) : Prop := ∃ r ∈ w.filter, r.Holds a

/-- A sheet before and after its rows and columns were moved: everything is where its row and its
column have moved to. -/
structure Travels (rows cols : Nat → Option Nat) (w w' : Worksheet) : Prop where
  /-- Places that are left are merged with each other if they were. -/
  merges_iff : ∀ {a b a' b'}, a ≠ b → a.moved? rows cols = some a' →
    b.moved? rows cols = some b' → (w'.Merges a' b' ↔ w.Merges a b)
  filters_iff : ∀ {a a'}, a.moved? rows cols = some a' → (w'.Filters a' ↔ w.Filters a)
  rowHeights : w.rowHeights.MovesTo rows w'.rowHeights
  columnWidths : w.columnWidths.MovesTo cols w'.columnWidths
  /-- The stored cells are the old ones in their old order, less those of deleted lines.  In a cell the
  text of its formula may be another, and nothing else. -/
  cells : ∃ f : String → String, w'.grid.toList = w.grid.toList.filterMap fun (place, cell) =>
    (place.moved? rows cols).map fun target => (target, cell.mapFormula f)

end Worksheet

namespace LineEdit

variable (m : LineEdit) {w : Worksheet}

theorem isLaidOut_sheet (h : w.IsLaidOut) : (m.sheet w).IsLaidOut := by
  obtain ⟨keep, -, hmerged⟩ := m.merged_sheet w
  have hmoved : ∀ r' ∈ (m.sheet w).merged, ∃ r ∈ w.merged, m.region? r = some r' := by
    intro r' hr'
    rw [hmerged] at hr'
    exact List.mem_filterMap.1 (List.mem_of_mem_filter hr')
  refine ⟨fun r' hr' => ?_, ?_, fun r' hr' => ?_⟩
  · obtain ⟨r, hr, hregion⟩ := hmoved r' hr'
    exact isOrdered_region? hregion (h.merged r hr)
  · rw [hmerged]
    have hordered : w.merged.Pairwise fun r s => r.IsOrdered ∧ s.IsOrdered ∧ r.IsApart s :=
      h.apart.imp_of_mem fun hr hs hapart => ⟨h.merged _ hr, h.merged _ hs, hapart⟩
    refine (List.Pairwise.filterMap _ ?_ hordered).filter _
    rintro r s ⟨hr, hs, hapart⟩ r' hr' s' hs'
    exact isApart_region? hr' hs' hr hs hapart
  · rw [filter_sheet, Option.mem_bind_iff] at hr'
    obtain ⟨r, hr, hregion⟩ := hr'
    exact isOrdered_region? hregion (h.filter r hr)

/-- Everything on a sheet moves with its row and its column. -/
theorem travels_sheet (h : w.IsLaidOut) : w.Travels m.row? m.col? (m.sheet w) where
  merges_iff {a b a' b'} hne ha hb := by
    rw [← place?_eq_moved?] at ha hb
    obtain ⟨keep, hkeep, hmerged⟩ := m.merged_sheet w
    unfold Worksheet.Merges
    rw [hmerged]
    constructor
    · rintro ⟨r', hr', ha', hb'⟩
      obtain ⟨r, hr, hregion⟩ := List.mem_filterMap.1 (List.mem_of_mem_filter hr')
      have hordered := h.merged r hr
      exact ⟨r, hr, (holds_region? hregion hordered ha).1 ha',
        (holds_region? hregion hordered hb).1 hb'⟩
    · rintro ⟨r, hr, hra, hrb⟩
      have hordered := h.merged r hr
      obtain ⟨r', hregion⟩ := exists_region? hordered ha hra
      have ha' := (holds_region? hregion hordered ha).2 hra
      have hb' := (holds_region? hregion hordered hb).2 hrb
      refine ⟨r', List.mem_filter.2 ⟨List.mem_filterMap.2 ⟨r, hr, hregion⟩, hkeep r' ?_⟩, ha', hb'⟩
      -- two places are left of the region, so it is no single cell
      by_contra hsingle
      rw [Bool.not_eq_false] at hsingle
      rw [Region.eq_of_isSingleCell hsingle ha' hb'] at ha
      exact hne (m.keepsOrder.separates _ _ _ ha hb)
  filters_iff {a a'} ha := by
    rw [← place?_eq_moved?] at ha
    unfold Worksheet.Filters
    rw [filter_sheet]
    simp only [Option.mem_bind_iff]
    constructor
    · rintro ⟨r', ⟨r, hr, hregion⟩, ha'⟩
      exact ⟨r, hr, (holds_region? hregion (h.filter r hr) ha).1 ha'⟩
    · rintro ⟨r, hr, hra⟩
      obtain ⟨r', hregion⟩ := exists_region? (h.filter r hr) ha hra
      exact ⟨r', ⟨r, hr, hregion⟩, (holds_region? hregion (h.filter r hr) ha).2 hra⟩
  rowHeights := m.movesTo_rowHeights w
  columnWidths := m.movesTo_columnWidths w
  cells := by
    refine ⟨m.formula, ?_⟩
    rw [m.toList_sheet, ← place?_eq_moved?]
    rfl

end LineEdit

/-! ## Runs of edits -/

namespace LineEdit

/-- A sheet after some edits, one after another. -/
def sheetAfter (edits : List LineEdit) (w : Worksheet) : Worksheet :=
  edits.foldl (fun w m => m.sheet w) w

/-- Where a row is after some edits, if none of them deletes it. -/
def rowAfter? (edits : List LineEdit) (row : Nat) : Option Nat :=
  edits.foldlM (fun row m => m.row? row) row

/-- Where a column is after some edits, if none of them deletes it. -/
def colAfter? (edits : List LineEdit) (col : Nat) : Option Nat :=
  edits.foldlM (fun col m => m.col? col) col

end LineEdit

namespace Worksheet

theorem Travels.refl (w : Worksheet) : w.Travels some some w where
  merges_iff := by rintro ⟨⟩ ⟨⟩ _ _ - ⟨⟩ ⟨⟩; rfl
  filters_iff := by rintro ⟨⟩ _ ⟨⟩; rfl
  rowHeights := w.rowHeights.movesTo_some
  columnWidths := w.columnWidths.movesTo_some
  cells := by
    refine ⟨id, ?_⟩
    simp [Coord.moved?, Cell.mapFormula]

/-- What has moved twice has moved. -/
theorem Travels.trans {rows cols rows' cols' : Nat → Option Nat} {w w' w'' : Worksheet}
    (hrows : KeepsLines rows) (hcols : KeepsLines cols)
    (h : w.Travels rows cols w') (h' : w'.Travels rows' cols' w'') :
    w.Travels (fun row => (rows row).bind rows') (fun col => (cols col).bind cols') w'' := by
  refine ⟨?_, ?_, h.rowHeights.trans h'.rowHeights, h.columnWidths.trans h'.columnWidths, ?_⟩
  · intro a b a'' b'' hne ha hb
    rw [Coord.moved?_bind, Option.bind_eq_some_iff] at ha hb
    obtain ⟨a', ha, ha'⟩ := ha
    obtain ⟨b', hb, hb'⟩ := hb
    have hne' : a' ≠ b' := by
      rintro rfl
      exact hne (Coord.moved?_inj hrows hcols ha hb)
    rw [h'.merges_iff hne' ha' hb', h.merges_iff hne ha hb]
  · intro a a'' ha
    rw [Coord.moved?_bind, Option.bind_eq_some_iff] at ha
    obtain ⟨a', ha, ha'⟩ := ha
    rw [h'.filters_iff ha', h.filters_iff ha]
  · obtain ⟨f, hf⟩ := h.cells
    obtain ⟨f', hf'⟩ := h'.cells
    refine ⟨f' ∘ f, ?_⟩
    rw [hf', hf, List.filterMap_filterMap]
    congr 1
    funext ⟨place, cell⟩
    dsimp only
    rw [Coord.moved?_bind]
    cases place.moved? rows cols with
    | none => rfl
    | some target =>
      rw [Option.map_some, Option.bind_some, Option.bind_some, Cell.mapFormula_mapFormula]

/-- Rows are inserted, and rows and columns are deleted, one edit after another.  Merged regions stay
apart from each other with their corners in order.  Of what is left after all edits, two places are
merged with each other if they were before, a place is filtered if it was, every line has its old size,
and the stored cells are the old ones at the places to which they have moved. -/
theorem layout_travels (edits : List LineEdit) {w : Worksheet} (h : w.IsLaidOut) :
    (LineEdit.sheetAfter edits w).IsLaidOut ∧
      w.Travels (LineEdit.rowAfter? edits) (LineEdit.colAfter? edits)
        (LineEdit.sheetAfter edits w) := by
  induction edits generalizing w with
  | nil => exact ⟨h, .refl w⟩
  | cons m edits ih =>
    obtain ⟨hlaid, htravels⟩ := ih (m.isLaidOut_sheet h)
    exact ⟨hlaid, (m.travels_sheet h).trans m.keepsLines_row? m.keepsLines_col? htravels⟩

theorem isLaidOut_orderSheet : orderSheet.IsLaidOut := by
  have hheading : Region.IsOrdered ⟨0, 0, 0, 2⟩ := ⟨by decide, by decide⟩
  have hitems : Region.IsOrdered ⟨1, 1, 3, 1⟩ := ⟨by decide, by decide⟩
  have hfilter : Region.IsOrdered ⟨0, 0, 5, 1⟩ := ⟨by decide, by decide⟩
  refine ⟨?_, ?_, ?_⟩
  · exact List.forall_mem_cons.2 ⟨hheading, List.forall_mem_singleton.2 hitems⟩
  · exact List.pairwise_pair.2 ((Region.isApart_iff hheading hitems).2 (by decide))
  · rintro r ⟨⟩
    exact hfilter

/-- Two rows for items are inserted, then the heading goes, and the first column. -/
def orderEdits : List LineEdit := [.insertion 2 2, .removal (.row 0), .removal (.column 0)]

/-- Of the two merged regions one has gone with its row, the other has grown and moved. -/
theorem layout_travels_orderSheet :
    orderSheet.IsLaidOut ∧ (LineEdit.sheetAfter orderEdits orderSheet).IsLaidOut ∧
      (LineEdit.sheetAfter orderEdits orderSheet).merged = [⟨0, 0, 4, 0⟩] ∧
      LineEdit.rowAfter? orderEdits 3 = some 4 ∧ LineEdit.colAfter? orderEdits 1 = some 0 ∧
      orderSheet.Travels (LineEdit.rowAfter? orderEdits) (LineEdit.colAfter? orderEdits)
        (LineEdit.sheetAfter orderEdits orderSheet) := by
  obtain ⟨hlaid, htravels⟩ := layout_travels orderEdits isLaidOut_orderSheet
  exact ⟨isLaidOut_orderSheet, hlaid, by rfl, by decide, by decide, htravels⟩

end Worksheet

end SheetPress
