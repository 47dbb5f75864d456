import Mathlib
import SheetPress.Proofs.Coord.Columns
import SheetPress.Proofs.Evaluation.Places
import SheetPress.Proofs.Formula.Rewriting
import SheetPress.Proofs.Sheet.Lines

/-!
# Places and references around a deleted line

What the deletion of a row or a column does to the places of a sheet and to the references of its
formulas.  A reference loses the places of the line and keeps the others, in their order.

* `Removal` — the deletion of a row or of a column, with what it does to sheets, places and formulas.
* `Removal.placesBetween_corners` — the rectangle of a reference loses the places of the line.
* `Expr.found_remove` — a reference finds what it found before, less the cells of the line.
-/

namespace SheetPress

/-- The deletion of one line of a sheet. Lines are counted from 0. -/
inductive Removal where
  | row (removed : Nat)
  | column (removed : Nat)

namespace Removal

/-- A sheet without the line. -/
def sheet : Removal → Worksheet → Worksheet
  | row removed, w => w.removeRow removed
  | column removed, w => w.removeCol removed

/-- Where a place is afterwards. The places of the line are nowhere. -/
def place? : Removal → Coord → Option Coord
  | row removed, c => c.removeRow? removed
  | column removed, c => c.removeCol? removed

/-- The text of a formula afterwards. -/
def formula : Removal → String → String
  | row removed, f => shiftRowsForRemove f removed
  | column removed, f => shiftColsForRemove f removed

/-- The new text of a reference, if it moves. -/
def edit : Removal → Reference → Option String
  | row removed, r => r.removeRow? (removed + 1)
  | column removed, r => r.removeCol? removed

/-- A cell afterwards: its value and its style stay. -/
def cell (k : Removal) (cell : Cell) : Cell := cell.mapFormula k.formula

/-- A stored cell with its place afterwards, if it is not on the line. -/
def placed? (k : Removal) : Coord × Cell → Option (Coord × Cell)
  | (place, cell) => (k.place? place).map fun target => (target, k.cell cell)

theorem exists_of_placed?_row {removed : Nat} {entry entry' : Coord × Cell}
    (h : (row removed).placed? entry = some entry') :
    ∃ row', movedByRemove removed entry.1.row = some row' ∧
      entry' = (⟨row', entry.1.col⟩, (row removed).cell entry.2) := by
  obtain ⟨target, htarget, rfl⟩ := Option.map_eq_some_iff.1 h
  obtain ⟨row', hrow, rfl⟩ := Option.map_eq_some_iff.1 htarget
  exact ⟨row', hrow, rfl⟩

theorem exists_of_placed?_column {removed : Nat} {entry entry' : Coord × Cell}
    (h : (column removed).placed? entry = some entry') :
    ∃ col, movedByRemove removed entry.1.col = some col ∧
      entry' = (⟨entry.1.row, col⟩, (column removed).cell entry.2) := by
  obtain ⟨target, htarget, rfl⟩ := Option.map_eq_some_iff.1 h
  obtain ⟨col, hcol, rfl⟩ := Option.map_eq_some_iff.1 htarget
  exact ⟨col, hcol, rfl⟩

/-- Values and styles stay, less those of the line. -/
theorem map_filterMap_placed? (k : Removal) (entries : List (Coord × Cell)) :
    (entries.filterMap k.placed?).map (fun entry => (entry.2.value, entry.2.style)) =
      (entries.filter fun entry => (k.place? entry.1).isSome).map
        fun entry => (entry.2.value, entry.2.style) := by
  induction entries with
  | nil => rfl
  | cons entry entries ih =>
    cases hplace : k.place? entry.1 with
    | none =>
      rw [List.filterMap_cons_none (by rw [placed?, hplace]; rfl),
        List.filter_cons_of_neg (by simp [hplace]), ih]
    | some target =>
      rw [List.filterMap_cons_some (by rw [placed?, hplace]; rfl),
        List.filter_cons_of_pos (by simp [hplace]), List.map_cons, List.map_cons, ih]
      rfl

/-! ## Stored cells -/

variable (k : Removal)

theorem grid_sheet (w : Worksheet) : (k.sheet w).grid = (w.grid.rekey k.place?).mapCells k.cell := by
  cases k <;> rfl

theorem keepsOrder : Grid.KeepsOrder k.place? := by
  cases k with
  | row removed => exact keepsOrder_removeRow removed
  | column removed => exact keepsOrder_removeCol removed

theorem cell?_sheet (w : Worksheet) {place target : Coord} (h : k.place? place = some target) :
    (k.sheet w).cell? target = (w.cell? place).map k.cell := by
  cases k with
  | row removed => exact w.cell?_removeRow h
  | column removed => exact w.cell?_removeCol h

theorem formula?_sheet (w : Worksheet) {place target : Coord} (h : k.place? place = some target) :
    (k.sheet w).formula? target = (w.formula? place).map k.formula := by
  rw [Worksheet.formula?, Worksheet.formula?, k.cell?_sheet w h]
  cases w.cell? place <;> rfl

theorem formula_eq (formula : String) : k.formula formula = mapReferences k.edit formula := by
  cases k <;> rfl

theorem toList_sheet (w : Worksheet) : (k.sheet w).grid.toList = w.grid.toList.filterMap k.placed? := by
  rw [grid_sheet, Grid.toList_mapCells, Grid.toList_rekey k.keepsOrder, Grid.moved, List.map_filterMap]
  congr 1
  funext entry
  exact Option.map_map ..

/-- What is stored at some places is found at the places that they move to. -/
theorem filterMap_placed?_sheet (w : Worksheet) (places : List Coord) :
    (places.filterMap k.place?).filterMap (k.sheet w).grid.placed? =
      (places.filterMap w.grid.placed?).filterMap k.placed? := by
  rw [List.filterMap_filterMap, List.filterMap_filterMap]
  congr 1
  funext place
  cases hplace : k.place? place with
  | none =>
    unfold Grid.placed?
    cases w.grid.get? place <;> simp [placed?, hplace]
  | some target =>
    have hcell : (k.sheet w).grid.get? target = (w.grid.get? place).map k.cell :=
      k.cell?_sheet w hplace
    simp only [Option.bind_some, Grid.placed?, hcell]
    cases w.grid.get? place <;> simp [placed?, hplace]

end Removal

/-! ## Spans of lines -/

/-- The ends of a span after a line was deleted. -/
def spanAfter (removed first last : Nat) : Nat × Nat :=
  match removeFromSpan removed first last with
  | .moved first last => (first, last)
  | _ => (first, last)

section Span

variable {removed first last : Nat}

theorem spanAfter_eq (hgone : ¬ (first = removed ∧ last = removed)) :
    spanAfter removed first last =
      if removed > max first last then (first, last)
      else if removed < min first last then (first - 1, last - 1)
      else if first > last then (first - 1, last)
      else (first, last - 1) := by
  unfold spanAfter removeFromSpan
  rw [if_neg hgone]
  split_ifs <;> rfl

/-- A span is gone only if both of its ends are the deleted line. -/
theorem both_of_gone (h : removeFromSpan removed first last = .gone) :
    first = removed ∧ last = removed := by
  unfold removeFromSpan at h
  split_ifs at h with _ hgone
  exact hgone

theorem spanAfter_pos (hgone : ¬ (first = removed ∧ last = removed)) (hremoved : 0 < removed)
    (hfirst : 0 < first) (hlast : 0 < last) :
    0 < (spanAfter removed first last).1 ∧ 0 < (spanAfter removed first last).2 := by
  rw [spanAfter_eq hgone]
  split_ifs <;> dsimp only <;> omega

theorem spanAfter_le (hgone : ¬ (first = removed ∧ last = removed)) :
    (spanAfter removed first last).1 ≤ first ∧ (spanAfter removed first last).2 ≤ last := by
  rw [spanAfter_eq hgone]
  split_ifs <;> dsimp only <;> omega

/-- A line that is left lies in the span exactly if it did so before. -/
theorem mem_spanAfter (hgone : ¬ (first = removed ∧ last = removed)) {x x' : Nat}
    (hx : movedByRemove removed x = some x') :
    min (spanAfter removed first last).1 (spanAfter removed first last).2 ≤ x' ∧
        x' ≤ max (spanAfter removed first last).1 (spanAfter removed first last).2 ↔
      min first last ≤ x ∧ x ≤ max first last := by
  rw [movedByRemove_eq] at hx
  rw [spanAfter_eq hgone]
  split_ifs at hx ⊢ <;> simp only [Option.some.injEq] at hx <;> dsimp only <;> omega

/-- A line outside of the deleted one moves as the span of that line only does. -/
theorem movedByRemove_eq_spanAfter (h : first ≠ removed) :
    movedByRemove removed first = some (spanAfter removed first first).1 := by
  rw [movedByRemove_eq, spanAfter_eq fun hgone => h hgone.1]
  split_ifs <;> first | rfl | omega

theorem movedByRemove_succ (removed x : Nat) :
    movedByRemove (removed + 1) (x + 1) = (movedByRemove removed x).map (· + 1) := by
  rw [movedByRemove_eq, movedByRemove_eq]
  split_ifs <;> first | omega | rfl | (simp only [Option.map_some, Option.some.injEq]; omega)

theorem keepsLines_remove (removed : Nat) : KeepsLines (movedByRemove removed) :=
  fun _ _ _ _ ha hb hab => lt_of_movedByRemove ha hb hab

/-- The lines of a span, one after the other, that are left behind a deletion. -/
theorem between_eq_filterMap {low high low' high' : Nat}
    (h : ∀ x x', movedByRemove removed x = some x' →
      (low' ≤ x' ∧ x' ≤ high' ↔ low ≤ x ∧ x ≤ high)) :
    between low' high' = (between low high).filterMap (movedByRemove removed) := by
  have hmoved : ((between low high).filterMap (movedByRemove removed)).Pairwise (· < ·) :=
    List.Pairwise.filterMap _
      (fun a b hab a' ha b' hb => keepsLines_remove removed a b a' b' ha hb hab)
      (sorted_between low high)
  refine List.Perm.eq_of_pairwise (fun a b _ _ hab hba => absurd hab hba.asymm)
    (sorted_between low' high') hmoved ?_
  rw [List.perm_ext_iff_of_nodup ((sorted_between low' high').imp Nat.ne_of_lt)
    (hmoved.imp Nat.ne_of_lt)]
  intro x'
  rw [List.mem_filterMap, mem_between]
  constructor
  · intro hx'
    -- every line comes from one: itself or the next one
    obtain ⟨x, hx⟩ : ∃ x, movedByRemove removed x = some x' := by
      by_cases hlt : x' < removed
      · exact ⟨x', by rw [movedByRemove_eq, if_pos hlt]⟩
      · refine ⟨x' + 1, ?_⟩
        rw [movedByRemove_eq, if_neg (by omega), if_neg (by omega), Nat.add_sub_cancel]
    exact ⟨x, mem_between.2 ((h x x' hx).1 hx'), hx⟩
  · rintro ⟨x, hmem, hx⟩
    exact (h x x' hx).2 (mem_between.1 hmem)

end Span

/-! ## References -/

namespace Removal

/-- The number of the deleted line as references count: rows from 1, columns from 0. -/
def removed : Removal → Nat
  | row removed => removed + 1
  | column removed => removed

/-- The line of a corner, as references count. -/
def line : Removal → CellRef → Nat
  | row _, a => a.row
  | column _, a => columnIndex a.column.toList

/-- A corner moved to another line. -/
def withLine : Removal → CellRef → Nat → CellRef
  | row _, a, line => { a with row := line }
  | column _, a, line => a.withColumn line

/-- The corners of a reference afterwards. -/
def corners (k : Removal) (a b : CellRef) : CellRef × CellRef :=
  match removeFromSpan k.removed (k.line a) (k.line b) with
  | .moved first last => (k.withLine a first, k.withLine b last)
  | _ => (a, b)

/-- The edit of the text reaches a corner: where a column is deleted, the corner has to name a column
that a sheet has. -/
def Reaches : Removal → CellRef → Prop
  | row _, _ => True
  | column _, a => a.columnIndex?.isSome = true

/-- A reference is not lost: not both of its corners lie in the line. -/
def Leaves (k : Removal) (a b : CellRef) : Prop := ¬ (k.line a = k.removed ∧ k.line b = k.removed)

instance (k : Removal) (a : CellRef) : Decidable (k.Reaches a) :=
  match k with
  | row _ => .isTrue trivial
  | column _ => inferInstanceAs (Decidable (_ = true))

instance (k : Removal) (a b : CellRef) : Decidable (k.Leaves a b) :=
  inferInstanceAs (Decidable (¬ _))

variable {k : Removal} {a b : CellRef}

/-- The text that a deletion gives a reference of its own sheet, from what becomes of its lines. -/
theorem edit_eq {a : CellRef} {last : Option CellRef} (ha : k.Reaches a)
    (hlast : k.Reaches (last.getD a)) :
    k.edit ⟨a, last, false⟩ =
      match removeFromSpan k.removed (k.line a) (k.line (last.getD a)) with
      | .kept => none
      | .gone => some referenceErrorText
      | .moved first next =>
        some (Reference.text ⟨k.withLine a first, last.map (k.withLine · next), false⟩) := by
  cases k with
  | row removed => rfl
  | column removed =>
    have hindex : ∀ a : CellRef, a.columnIndex?.isSome = true →
        a.columnIndex? = some (columnIndex a.column.toList) := by
      intro a ha
      unfold CellRef.columnIndex? parseColumn? at ha ⊢
      dsimp only at ha ⊢
      split at ha
      · split at ha
        · next hletters hlt => rw [if_pos hletters, if_pos hlt]
        · cases ha
      · cases ha
    unfold edit Reference.removeCol?
    dsimp only
    rw [hindex a ha, hindex _ hlast]
    rfl

/-- The corners of a row deletion as places. -/
theorem place_corners_row (removed : Nat) (a b : CellRef) :
    ((row removed).corners a b).1.place =
        ⟨(spanAfter (removed + 1) a.row b.row).1 - 1, a.place.col⟩ ∧
      ((row removed).corners a b).2.place =
        ⟨(spanAfter (removed + 1) a.row b.row).2 - 1, b.place.col⟩ := by
  unfold corners spanAfter
  dsimp only [Removal.removed, line]
  split <;> exact ⟨rfl, rfl⟩

/-- The corners of a column deletion as places. -/
theorem place_corners_column (removed : Nat) (a b : CellRef) :
    ((column removed).corners a b).1.place =
        ⟨a.place.row, (spanAfter removed a.place.col b.place.col).1⟩ ∧
      ((column removed).corners a b).2.place =
        ⟨b.place.row, (spanAfter removed a.place.col b.place.col).2⟩ := by
  have hplace : ∀ (a : CellRef) (col : Nat), (a.withColumn col).place = ⟨a.place.row, col⟩ := by
    intro a col
    simp [CellRef.withColumn, CellRef.place, Coord.ofLetters, columnName,
      columnIndex_columnLetters]
  unfold corners spanAfter
  dsimp only [Removal.removed, line, CellRef.place, Coord.ofLetters]
  split
  · exact ⟨hplace a _, hplace b _⟩
  · exact ⟨rfl, rfl⟩

/-- The rows of a reference afterwards. -/
theorem rows_corners {removed first last : Nat}
    (hgone : ¬ (first = removed + 1 ∧ last = removed + 1)) (hfirst : 0 < first) (hlast : 0 < last) :
    between
        (min ((spanAfter (removed + 1) first last).1 - 1) ((spanAfter (removed + 1) first last).2 - 1))
        (max ((spanAfter (removed + 1) first last).1 - 1)
          ((spanAfter (removed + 1) first last).2 - 1)) =
      (between (min (first - 1) (last - 1)) (max (first - 1) (last - 1))).filterMap
        (movedByRemove removed) := by
  refine between_eq_filterMap fun x x' hx => ?_
  have hsucc := movedByRemove_succ removed x
  rw [hx, Option.map_some] at hsucc
  have hmem := mem_spanAfter hgone hsucc
  have hpos := spanAfter_pos hgone (Nat.succ_pos removed) hfirst hlast
  omega

/-- The rectangle of a reference loses the places of the line; the others move. -/
theorem placesBetween_corners (ha : 0 < a.row) (hb : 0 < b.row) (h : k.Leaves a b) :
    placesBetween (k.corners a b).1.place (k.corners a b).2.place =
      (placesBetween a.place b.place).filterMap k.place? := by
  cases k with
  | row removed =>
    have hgone : ¬ (a.row = removed + 1 ∧ b.row = removed + 1) := h
    obtain ⟨hfirst, hlast⟩ := place_corners_row removed a b
    rw [hfirst, hlast, placesBetween, placesBetween]
    dsimp only
    rw [rows_corners hgone ha hb, List.filterMap_flatMap, List.filterMap_eq_flatMap_toList,
      List.flatMap_assoc]
    refine List.flatMap_congr fun row _ => ?_
    rw [List.filterMap_map]
    cases hrow : movedByRemove removed row with
    | none => simp [place?, Coord.removeRow?, Function.comp_def, hrow]
    | some row' => simp [place?, Coord.removeRow?, Function.comp_def, hrow]
  | column removed =>
    have hgone : ¬ (a.place.col = removed ∧ b.place.col = removed) := h
    obtain ⟨hfirst, hlast⟩ := place_corners_column removed a b
    rw [hfirst, hlast, placesBetween, placesBetween]
    dsimp only
    rw [between_eq_filterMap fun x x' hx => mem_spanAfter hgone hx, List.filterMap_flatMap]
    refine List.flatMap_congr fun row _ => ?_
    rw [List.filterMap_map, List.map_filterMap]
    rfl

/-- The place of a reference to a cell moves. -/
theorem place?_corners (ha : 0 < a.row) (h : k.Leaves a a) :
    k.place? a.place = some (k.corners a a).1.place := by
  cases k with
  | row removed =>
    have hline : a.row ≠ removed + 1 := fun heq => h ⟨heq, heq⟩
    have hmoved := movedByRemove_eq_spanAfter hline
    have hpred : a.row = a.row - 1 + 1 := by omega
    rw [hpred, movedByRemove_succ, ← hpred, Option.map_eq_some_iff] at hmoved
    obtain ⟨row, hrow, hspan⟩ := hmoved
    rw [(place_corners_row removed a a).1, ← hspan]
    show (movedByRemove removed (a.row - 1)).map _ = _
    rw [hrow]
    rfl
  | column removed =>
    have hline : a.place.col ≠ removed := fun heq => h ⟨heq, heq⟩
    rw [(place_corners_column removed a a).1]
    show (movedByRemove removed a.place.col).map _ = _
    rw [movedByRemove_eq_spanAfter hline]
    rfl

end Removal

/-- A reference afterwards. Whole columns and rows are not rewritten. -/
def Expr.remove (k : Removal) : Expr → Expr
  | .cell sheet a => .cell sheet (k.corners a a).1
  | .range sheet a b => .range sheet (k.corners a b).1 (k.corners a b).2
  | e => e

/-- A reference of the own sheet that a deletion leaves on its cells: it names columns that a sheet
has, does not lie in the line, and does not name whole lines of the same kind. -/
def Expr.Survives (k : Removal) : Expr → Prop
  | .cell none a => k.Reaches a ∧ k.Leaves a a
  | .range none a b => k.Reaches a ∧ k.Reaches b ∧ k.Leaves a b
  | .columns none _ _ => ∃ removed, k = .row removed
  | .rows none _ _ => ∃ removed, k = .column removed
  | _ => False

/-- Two references of the same kind. -/
inductive SameKind : Expr → Expr → Prop
  | cell (sheet : Option String) (a a' : CellRef) : SameKind (.cell sheet a) (.cell sheet a')
  | range (sheet : Option String) (a b a' b' : CellRef) :
      SameKind (.range sheet a b) (.range sheet a' b')
  | columns (sheet : Option String) (a b a' b' : ColumnRef) :
      SameKind (.columns sheet a b) (.columns sheet a' b')
  | rows (sheet : Option String) (a b a' b' : Nat) : SameKind (.rows sheet a b) (.rows sheet a' b')

section References

variable {k : Removal} {r : Expr}

theorem Expr.Survives.isLocal (h : r.Survives k) : r.IsLocal := by
  match r, h with
  | .cell none _, _ => trivial
  | .range none _ _, _ => trivial
  | .columns none _ _, _ => trivial
  | .rows none _ _, _ => trivial

theorem Expr.Survives.sameKind (h : r.Survives k) : SameKind r (r.remove k) := by
  match r, h with
  | .cell none _, _ => exact .cell ..
  | .range none _ _, _ => exact .range ..
  | .columns none _ _, _ => exact .columns ..
  | .rows none _ _, _ => exact .rows ..

theorem SameKind.isLocal {r' : Expr} (h : SameKind r r') (hlocal : r.IsLocal) : r'.IsLocal := by
  cases h with
  | cell sheet => cases sheet <;> exact hlocal
  | range sheet => cases sheet <;> exact hlocal
  | columns sheet => cases sheet <;> exact hlocal
  | rows sheet => cases sheet <;> exact hlocal

/-! ## What references find -/

/-- Stored cells keep their columns when a row is deleted, so whole columns find them again. -/
theorem columnEntries_remove (w : Worksheet) (removed a b : Nat) :
    ((Removal.row removed).sheet w).grid.columnEntries a b =
      (w.grid.columnEntries a b).filterMap (Removal.row removed).placed? := by
  have hmoves : ∀ p p', (Removal.row removed).placed? p = some p' →
      movedByRemove removed p.1.row = some p'.1.row ∧ some p.1.col = some p'.1.col := by
    intro p p' hp
    obtain ⟨row, hrow, rfl⟩ := Removal.exists_of_placed?_row hp
    exact ⟨hrow, rfl⟩
  refine Grid.columnEntries_of_toList (Removal.toList_sheet _ w) (keepsLines_remove removed)
    keepsLines_some hmoves fun p _ p' hp => ?_
  rw [Option.some.inj (hmoves p p' hp).2]

/-- Stored cells keep their rows when a column is deleted, so whole rows find them again. -/
theorem rowEntries_remove (w : Worksheet) (removed a b : Nat) :
    ((Removal.column removed).sheet w).grid.rowEntries a b =
      (w.grid.rowEntries a b).filterMap (Removal.column removed).placed? := by
  refine Grid.rowEntries_of_toList (Removal.toList_sheet _ w) fun p _ p' hp => ?_
  obtain ⟨col, -, rfl⟩ := Removal.exists_of_placed?_column hp
  exact Iff.rfl

/-- A reference finds the cells that it found before, in the same order, less those of the line. -/
theorem Expr.found_remove (w : Worksheet) (h : r.Survives k) (hwritten : r.Written) :
    (r.remove k).found (k.sheet w).grid = (r.found w.grid).filterMap k.placed? := by
  match r, h, hwritten with
  | .cell none a, h, hwritten =>
    have hplace : [(k.corners a a).1.place] = [a.place].filterMap k.place? := by
      rw [List.filterMap_cons_some (Removal.place?_corners hwritten.row_pos h.2), List.filterMap_nil]
    show [(k.corners a a).1.place].filterMap _ = _
    rw [hplace, k.filterMap_placed?_sheet w]
    rfl
  | .range none a b, h, hwritten =>
    show (placesBetween (k.corners a b).1.place (k.corners a b).2.place).filterMap _ = _
    rw [Removal.placesBetween_corners hwritten.1.row_pos hwritten.2.row_pos h.2.2,
      k.filterMap_placed?_sheet w]
    rfl
  | .columns none a b, ⟨removed, hk⟩, _ =>
    subst hk
    exact columnEntries_remove w removed _ _
  | .rows none a b, ⟨removed, hk⟩, _ =>
    subst hk
    exact rowEntries_remove w removed _ _

end References

end SheetPress
