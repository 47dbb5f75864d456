import SheetPress.Proofs.Sheet.Lines
import SheetPress.Proofs.Sheet.Writing
import SheetPress.Template.Table

/-!
# The used area of a sheet

A grid keeps the largest row and the largest column in use beside its cells.  Whatever is done to a
sheet, by its own operations or by those of its grid, the two stay what they are meant to be; so the
texts of a sheet, which are laid out in that many rows, have a place each.

* `Grid.HasBounds` — the bounds are the largest stored row and column.
* `Grid.HasBounds.erase` — they are recomputed often enough.
* `Worksheet.hasBounds_after` — every sheet that starts empty has them.
* `Worksheet.usedArea_after` — and its texts are listed where they stand, with nothing behind them.
-/

namespace SheetPress

/-! ## The largest line in use -/

namespace Grid

/-- A number is the largest among the lines of stored cells, or zero if nothing is stored. -/
structure IsLargest (g : Grid) (line : Coord → Nat) (n : Nat) : Prop where
  le : ∀ place cell, g.get? place = some cell → line place ≤ n
  used : (∃ place cell, g.get? place = some cell ∧ line place = n) ∨ g.isEmpty = true ∧ n = 0

/-- The bounds of a grid are the largest row and the largest column that are stored. -/
structure HasBounds (g : Grid) : Prop where
  row : g.IsLargest Coord.row g.maxRow
  col : g.IsLargest Coord.col g.maxCol

variable {g g' : Grid} {line : Coord → Nat} {n : Nat} {place : Coord}

theorem isEmpty_iff : g.isEmpty = true ↔ ∀ place, g.get? place = none := by
  rw [isEmpty, Std.ExtTreeMap.isEmpty_iff, cells_eq_empty_iff]

/-- Only the stored places matter. -/
theorem IsLargest.congr (h : g.IsLargest line n)
    (hstored : ∀ place, (g'.get? place).isSome = (g.get? place).isSome) : g'.IsLargest line n := by
  have hget (place : Coord) : (∃ cell, g'.get? place = some cell) ↔
      ∃ cell, g.get? place = some cell := by
    rw [← Option.isSome_iff_exists, ← Option.isSome_iff_exists, hstored]
  refine ⟨fun place cell hcell => ?_, ?_⟩
  · obtain ⟨cell', hcell'⟩ := (hget place).1 ⟨cell, hcell⟩
    exact h.le place cell' hcell'
  · rcases h.used with ⟨place, cell, hcell, hline⟩ | ⟨hempty, hzero⟩
    · obtain ⟨cell', hcell'⟩ := (hget place).2 ⟨cell, hcell⟩
      exact .inl ⟨place, cell', hcell', hline⟩
    · refine .inr ⟨isEmpty_iff.2 fun place => ?_, hzero⟩
      rw [← Option.not_isSome_iff_eq_none, hstored, isEmpty_iff.1 hempty place]
      exact Bool.false_ne_true

theorem HasBounds.congr (h : g.HasBounds)
    (hstored : ∀ place, (g'.get? place).isSome = (g.get? place).isSome)
    (hrow : g'.maxRow = g.maxRow) (hcol : g'.maxCol = g.maxCol) : g'.HasBounds :=
  ⟨hrow ▸ h.row.congr hstored, hcol ▸ h.col.congr hstored⟩

/-- The largest line, found by going through all cells. -/
theorem isLargest_foldl (g : Grid) (line : Coord → Nat) :
    g.IsLargest line (g.toList.foldl (fun m (place, _) => max m (line place)) 0) := by
  have hfold (entries : List (Coord × Cell)) (start : Nat) :
      let last := entries.foldl (fun m (place, _) => max m (line place)) start
      start ≤ last ∧ (∀ entry ∈ entries, line entry.1 ≤ last) ∧
        (last = start ∨ ∃ entry ∈ entries, line entry.1 = last) := by
    induction entries generalizing start with
    | nil => exact ⟨le_rfl, fun _ h => absurd h List.not_mem_nil, .inl rfl⟩
    | cons entry entries ih =>
      obtain ⟨hstart, hall, hlast⟩ := ih (max start (line entry.1))
      refine ⟨(le_max_left ..).trans hstart, ?_, ?_⟩
      · exact List.forall_mem_cons.2 ⟨(le_max_right ..).trans hstart, hall⟩
      · rcases hlast with hlast | ⟨other, hother, hline⟩
        · rcases max_choice start (line entry.1) with hmax | hmax
          · exact .inl (hlast.trans hmax)
          · exact .inr ⟨entry, List.mem_cons_self .., (hlast.trans hmax).symm⟩
        · exact .inr ⟨other, List.mem_cons_of_mem _ hother, hline⟩
  obtain ⟨-, hall, hlast⟩ := hfold g.toList 0
  refine ⟨fun place cell hcell => hall (place, cell) (mem_toList.2 hcell), ?_⟩
  rcases hlast with hzero | ⟨entry, hentry, hline⟩
  · by_cases hempty : g.isEmpty = true
    · exact .inr ⟨hempty, hzero⟩
    · obtain ⟨place, hplace⟩ := not_forall.1 (mt isEmpty_iff.2 hempty)
      obtain ⟨cell, hcell⟩ := Option.ne_none_iff_exists'.1 hplace
      have hle := hall (place, cell) (mem_toList.2 hcell)
      rw [hzero] at hle ⊢
      exact .inl ⟨place, cell, hcell, Nat.le_zero.1 hle⟩
  · exact .inl ⟨entry.1, entry.2, mem_toList.1 hentry, hline⟩

theorem hasBounds_tighten (g : Grid) : g.tighten.HasBounds :=
  ⟨(isLargest_foldl g Coord.row).congr fun _ => rfl, (isLargest_foldl g Coord.col).congr fun _ => rfl⟩

theorem hasBounds_empty : ({} : Grid).HasBounds := hasBounds_tighten {}

theorem IsLargest.set (h : g.IsLargest line n) (place : Coord) (cell : Cell) :
    (g.set place cell).IsLargest line (max n (line place)) := by
  have hself : (g.set place cell).get? place = some cell := (get?_set ..).trans (if_pos rfl)
  refine ⟨fun p c hp => ?_, .inl ?_⟩
  · rw [get?_set] at hp
    split at hp
    · next heq => exact heq ▸ le_max_right ..
    · exact (h.le p c hp).trans (le_max_left ..)
  · rcases le_total n (line place) with hle | hle
    · exact ⟨place, cell, hself, (max_eq_right hle).symm⟩
    · rw [max_eq_left hle]
      rcases h.used with ⟨p, c, hp, hline⟩ | ⟨-, rfl⟩
      · by_cases heq : p = place
        · exact ⟨place, cell, hself, heq ▸ hline⟩
        · exact ⟨p, c, (get?_set ..).trans ((if_neg heq).trans hp), hline⟩
      · exact ⟨place, cell, hself, Nat.le_zero.1 hle⟩

theorem HasBounds.set (h : g.HasBounds) (place : Coord) (cell : Cell) :
    (g.set place cell).HasBounds :=
  ⟨h.row.set place cell, h.col.set place cell⟩

theorem HasBounds.foldl_set (h : g.HasBounds) (cells : List (Coord × Cell)) :
    (cells.foldl (fun g (place, cell) => g.set place cell) g).HasBounds := by
  induction cells generalizing g with
  | nil => exact h
  | cons entry cells ih => exact ih (h.set entry.1 entry.2)

theorem HasBounds.update (h : g.HasBounds) (place : Coord) (f : Cell → Cell) :
    (g.update place f).HasBounds :=
  h.set place _

/-- A cell that is not on the largest line is not missed there. -/
theorem IsLargest.erase (h : g.IsLargest line n) (hplace : line place ≠ n) {rest : Grid}
    (hrest : rest.cells = g.cells.erase place) : rest.IsLargest line n := by
  have hget (p : Coord) : rest.get? p = if p = place then none else g.get? p := by
    simp [get?, hrest, Std.ExtTreeMap.getElem?_erase, eq_comm (a := place)]
  refine ⟨fun p c hp => ?_, ?_⟩
  · rw [hget] at hp
    split at hp
    · cases hp
    · exact h.le p c hp
  · rcases h.used with ⟨p, c, hp, hline⟩ | ⟨hempty, hzero⟩
    · have hne : p ≠ place := fun heq => hplace (heq ▸ hline)
      exact .inl ⟨p, c, (hget p).trans ((if_neg hne).trans hp), hline⟩
    · refine .inr ⟨isEmpty_iff.2 fun p => ?_, hzero⟩
      rw [hget, isEmpty_iff.1 hempty, ite_self]

/-- Bounds need to be recomputed only if the erased cell was on one. -/
theorem HasBounds.erase (h : g.HasBounds) (place : Coord) : (g.erase place).HasBounds := by
  unfold Grid.erase
  dsimp only
  split
  · exact hasBounds_tighten _
  · next hinside =>
    obtain ⟨hrow, hcol⟩ := not_or.1 hinside
    exact ⟨h.row.erase hrow rfl, h.col.erase hcol rfl⟩

theorem HasBounds.mapCells (h : g.HasBounds) (f : Cell → Cell) : (g.mapCells f).HasBounds :=
  h.congr (fun place => by rw [get?_mapCells, Option.isSome_map]) rfl rfl

/-- A stored cell may be replaced without a look at the bounds. -/
theorem HasBounds.replace (h : g.HasBounds) {cell : Cell} (hcell : g.get? place = some cell)
    (new : Cell) : HasBounds { g with cells := g.cells.insert place new } := by
  refine h.congr (fun p => ?_) rfl rfl
  have hget : Grid.get? { g with cells := g.cells.insert place new } p =
      if p = place then some new else g.get? p := get?_set g place p new
  rw [hget]
  split
  · next heq =>
    rw [heq, hcell]
    rfl
  · rfl

end Grid

/-! ## What is done to a sheet -/

namespace Worksheet

/-- Something that is done to a sheet, or to its grid directly. -/
inductive Change where
  | setValue (place : Coord) (value : CellValue)
  | setFormula (place : Coord) (formula : String)
  | setStyle (place : Coord) (style : Nat)
  | clearCell (place : Coord)
  | clearRow (row : Nat)
  | insertRows (start count : Nat)
  | removeRow (removed : Nat)
  | removeCol (removed : Nat)
  | storeCell (place : Coord) (cell : Cell)
  | updateCell (place : Coord) (f : Cell → Cell)
  | eraseCell (place : Coord)
  | moveCells (f : Coord → Option Coord)

/-- A sheet after a change. -/
def change (w : Worksheet) : Change → Worksheet
  | .setValue place value => w.setValue place value
  | .setFormula place formula => w.setFormula place formula
  | .setStyle place style => w.setStyle place style
  | .clearCell place => w.clearCell place
  | .clearRow row => w.clearRow row
  | .insertRows start count => w.insertRows start count
  | .removeRow removed => w.removeRow removed
  | .removeCol removed => w.removeCol removed
  | .storeCell place cell => { w with grid := w.grid.set place cell }
  | .updateCell place f => { w with grid := w.grid.update place f }
  | .eraseCell place => { w with grid := w.grid.erase place }
  | .moveCells f => { w with grid := w.grid.rekey f }

/-- A sheet after some changes. -/
def after (w : Worksheet) (changes : List Change) : Worksheet := changes.foldl change w

variable {w : Worksheet}

theorem hasBounds_setFormula (h : w.grid.HasBounds) (place : Coord) (formula : String) :
    (w.setFormula place formula).grid.HasBounds := by
  unfold setFormula
  split
  · split
    · next cell hcell => exact h.replace hcell _
    · exact h
  · exact h.set place _

theorem hasBounds_clearCell (h : w.grid.HasBounds) (place : Coord) :
    (w.clearCell place).grid.HasBounds := by
  unfold clearCell
  split
  · exact h
  · next cell hcell =>
    have hkept := h.replace hcell { cell with formula := none, value := .empty }
    dsimp only
    split
    · exact hkept.erase place
    · exact hkept

theorem hasBounds_clearRow (h : w.grid.HasBounds) (row : Nat) : (w.clearRow row).grid.HasBounds := by
  unfold clearRow
  generalize (w.grid.toList.map (·.1)).filter (·.row == row) = places
  dsimp only
  induction places generalizing w with
  | nil => exact h
  | cons place places ih => exact ih (hasBounds_clearCell h place)

/-- Cells that are moved have the bounds of the places where they are then. -/
theorem hasBounds_rekey (g : Grid) (f : Coord → Option Coord) : (g.rekey f).HasBounds :=
  Grid.hasBounds_tighten _

theorem hasBounds_insertRows (h : w.grid.HasBounds) (start count : Nat) :
    (w.insertRows start count).grid.HasBounds := by
  unfold insertRows
  split
  · exact h
  · exact (hasBounds_rekey ..).mapCells _

theorem hasBounds_change (h : w.grid.HasBounds) (c : Change) : (w.change c).grid.HasBounds := by
  cases c with
  | setValue place value => exact h.set place _
  | setFormula place formula => exact hasBounds_setFormula h place formula
  | setStyle place style => exact h.set place _
  | clearCell place => exact hasBounds_clearCell h place
  | clearRow row => exact hasBounds_clearRow h row
  | insertRows start count => exact hasBounds_insertRows h start count
  | removeRow removed => exact (hasBounds_rekey ..).mapCells _
  | removeCol removed => exact (hasBounds_rekey ..).mapCells _
  | storeCell place cell => exact h.set place cell
  | updateCell place f => exact h.update place f
  | eraseCell place => exact h.erase place
  | moveCells f => exact hasBounds_rekey w.grid f

/-- A sheet that starts empty has the bounds of its cells, whatever is done to it. -/
theorem hasBounds_after (name : String) (changes : List Change) :
    (({ name } : Worksheet).after changes).grid.HasBounds := by
  have hrun (w : Worksheet) (h : w.grid.HasBounds) : (w.after changes).grid.HasBounds := by
    induction changes generalizing w with
    | nil => exact h
    | cons c changes ih => exact ih _ (hasBounds_change h c)
  exact hrun _ Grid.hasBounds_empty

/-! ## The texts of a sheet -/

/-- Rows of texts with the text of a cell put in its place. -/
def putText (rows : List (List String)) (entry : Coord × Cell) : List (List String) :=
  if entry.2.display.isEmpty then rows
  else rows.modify entry.1.row (setText · entry.1.col entry.2.display)

/-- Rows of texts with the text of a cell put in its place, if there is a row for it. -/
def putText? (rows : List (List String)) (entry : Coord × Cell) : Option (List (List String)) :=
  if entry.2.display.isEmpty then some rows
  else
    rows[entry.1.row]?.map fun line =>
      rows.set entry.1.row (setText line entry.1.col entry.2.display)

/-- The display texts of a sheet, if each of them has a row to stand in. -/
def textRows? (w : Worksheet) : Option (List (List String)) :=
  if w.grid.isEmpty then some []
  else w.grid.toList.foldlM putText? (List.replicate (w.grid.maxRow + 1) [])

section Texts

variable {rows : List (List String)} {texts : List String} {entries : List (Coord × Cell)}
  {entry : Coord × Cell} {n : Nat}

theorem length_putText (rows : List (List String)) (entry : Coord × Cell) :
    (putText rows entry).length = rows.length := by
  unfold putText
  split
  · rfl
  · exact List.length_modify ..

theorem putText?_eq (h : entry.1.row < rows.length) : putText? rows entry = some (putText rows entry) := by
  unfold putText? putText
  split
  · rfl
  · rw [List.getElem?_eq_getElem h, Option.map_some, List.modify_eq_set_getElem?,
      List.getElem?_eq_getElem h]
    rfl

/-- Cells whose rows are there find them. -/
theorem foldlM_putText? (h : ∀ entry ∈ entries, entry.1.row < rows.length) :
    entries.foldlM putText? rows = some (entries.foldl putText rows) := by
  induction entries generalizing rows with
  | nil => rfl
  | cons entry entries ih =>
    obtain ⟨hentry, hentries⟩ := List.forall_mem_cons.1 h
    rw [List.foldlM_cons, putText?_eq hentry, List.foldl_cons]
    refine ih fun other hother => ?_
    rw [length_putText]
    exact hentries other hother

theorem getElem?_setText (texts : List String) (col c : Nat) (text : String) :
    ((setText texts col text)[c]?).getD "" = if c = col then text else (texts[c]?).getD "" := by
  unfold setText
  rw [List.getElem?_set]
  by_cases hc : col = c
  · subst hc
    rw [if_pos rfl, if_pos rfl, if_pos (by simp; omega)]
    rfl
  · rw [if_neg hc, if_neg (Ne.symm hc), List.getElem?_append]
    split
    · rfl
    · next hlen =>
      rw [List.getElem?_eq_none (Nat.le_of_not_lt hlen), List.getElem?_replicate]
      split <;> rfl

/-- A row that ends with a text that is not empty does so when one more is put in. -/
theorem getLast?_setText {text : String} (htext : text ≠ "") (h : texts.getLast? ≠ some "")
    (col : Nat) : (setText texts col text).getLast? ≠ some "" := by
  have hlength : (setText texts col text).length = max texts.length (col + 1) := by
    simp only [setText, List.length_set, List.length_append, List.length_replicate]
    omega
  rw [List.getLast?_eq_getElem?] at h ⊢
  intro hlast
  have hget := getElem?_setText texts col ((setText texts col text).length - 1) text
  rw [hlast, Option.getD_some, hlength] at hget
  split at hget
  · exact htext hget.symm
  · next hne =>
    have hlen : max texts.length (col + 1) - 1 = texts.length - 1 := by omega
    rw [hlen, List.getElem?_eq_getElem (by omega)] at hget
    refine h ?_
    rw [List.getElem?_eq_getElem (by omega)]
    exact congrArg some hget.symm

theorem textAt_putText (h : entry.1.row < rows.length) (hempty : textAt rows entry.1.row entry.1.col = "")
    (place : Coord) :
    textAt (putText rows entry) place.row place.col =
      if place = entry.1 then entry.2.display else textAt rows place.row place.col := by
  unfold putText
  split
  · next hblank =>
    split
    · next heq => rw [heq, hempty, String.isEmpty_iff.1 hblank]
    · rfl
  · rw [textAt, textAt, List.getElem?_modify]
    by_cases hrow : entry.1.row = place.row
    · rw [← hrow, List.getElem?_eq_getElem h]
      simp only [if_true, Option.map_eq_map, Option.map_some, Option.bind_some]
      have hset := getElem?_setText rows[entry.1.row] entry.1.col place.col entry.2.display
      by_cases hcol : place.col = entry.1.col
      · have hplace : place = entry.1 :=
          show (⟨place.row, place.col⟩ : Coord) = ⟨entry.1.row, entry.1.col⟩ by rw [hrow, hcol]
        rw [if_pos hplace]
        rw [if_pos hcol] at hset
        exact hset
      · rw [if_neg fun heq => hcol (congrArg Coord.col heq)]
        rw [if_neg hcol] at hset
        exact hset
    · rw [if_neg fun heq => hrow (congrArg Coord.row heq).symm]
      simp only [if_neg hrow, Option.map_eq_map, Option.map_id']

theorem getLast?_putText (h : ∀ texts ∈ rows, texts.getLast? ≠ some "") :
    ∀ texts ∈ putText rows entry, texts.getLast? ≠ some "" := by
  unfold putText
  split
  · exact h
  · next htext =>
    intro texts htexts
    obtain ⟨n, hn⟩ := List.mem_iff_getElem?.1 htexts
    rw [List.getElem?_modify] at hn
    obtain ⟨old, hold, rfl⟩ := Option.map_eq_some_iff.1 hn
    have hlast := h old (List.mem_of_getElem? hold)
    split
    · exact getLast?_setText (mt String.isEmpty_iff.2 htext) hlast _
    · exact hlast

/-- Cells of different places are shown where they stand, in rows that were empty there. -/
theorem textAt_foldl_putText (hplaces : entries.Pairwise fun a b => a.1 ≠ b.1)
    (hrows : ∀ entry ∈ entries, entry.1.row < rows.length)
    (hempty : ∀ entry ∈ entries, textAt rows entry.1.row entry.1.col = "") (place : Coord) :
    (∀ cell, (place, cell) ∈ entries →
        textAt (entries.foldl putText rows) place.row place.col = cell.display) ∧
      ((∀ entry ∈ entries, entry.1 ≠ place) →
        textAt (entries.foldl putText rows) place.row place.col =
          textAt rows place.row place.col) := by
  induction entries generalizing rows with
  | nil => exact ⟨fun _ h => absurd h List.not_mem_nil, fun _ => rfl⟩
  | cons entry entries ih =>
    obtain ⟨hne, hplaces⟩ := List.pairwise_cons.1 hplaces
    obtain ⟨hrow, hrows⟩ := List.forall_mem_cons.1 hrows
    obtain ⟨hblank, hempty⟩ := List.forall_mem_cons.1 hempty
    have hput := textAt_putText hrow hblank
    have hrows' : ∀ other ∈ entries, other.1.row < (putText rows entry).length :=
      fun other hother => (length_putText rows entry).symm ▸ hrows other hother
    have ih := ih hplaces hrows' fun other hother => by
      rw [hput, if_neg (hne other hother).symm, hempty other hother]
    rw [List.foldl_cons]
    refine ⟨fun cell hcell => ?_, fun hplace => ?_⟩
    · rcases List.mem_cons.1 hcell with heq | hcell
      · subst heq
        rw [ih.2 fun other hother => (hne other hother).symm, hput, if_pos rfl]
      · exact ih.1 cell hcell
    · obtain ⟨hentry, hplace⟩ := List.forall_mem_cons.1 hplace
      rw [ih.2 hplace, hput, if_neg hentry.symm]

theorem textAt_replicate (n row col : Nat) : textAt (List.replicate n []) row col = "" := by
  unfold textAt
  rw [List.getElem?_replicate]
  split <;> rfl

end Texts

theorem textRows_eq (w : Worksheet) :
    w.textRows = if w.grid.isEmpty then []
      else w.grid.toList.foldl putText (List.replicate (w.grid.maxRow + 1) []) := rfl

theorem row_lt_of_mem_toList (h : w.grid.HasBounds) {entry : Coord × Cell}
    (hentry : entry ∈ w.grid.toList) :
    entry.1.row < (List.replicate (w.grid.maxRow + 1) ([] : List String)).length := by
  rw [List.length_replicate]
  exact Nat.lt_succ_of_le (h.row.le entry.1 entry.2 (Grid.mem_toList.1 hentry))

theorem textRows?_eq (h : w.grid.HasBounds) : w.textRows? = some w.textRows := by
  rw [textRows?, textRows_eq]
  split
  · rfl
  · exact foldlM_putText? fun entry hentry => row_lt_of_mem_toList h hentry

theorem length_textRows (w : Worksheet) :
    w.textRows.length = if w.grid.isEmpty then 0 else w.grid.maxRow + 1 := by
  have hfold (entries : List (Coord × Cell)) (rows : List (List String)) :
      (entries.foldl putText rows).length = rows.length := by
    induction entries generalizing rows with
    | nil => rfl
    | cons entry entries ih => exact (ih _).trans (length_putText rows entry)
  rw [textRows_eq]
  split
  · rfl
  · rw [hfold, List.length_replicate]

/-- Texts are listed where their cells are stored, and nothing is listed elsewhere. -/
theorem textAt_textRows (h : w.grid.HasBounds) (place : Coord) :
    textAt w.textRows place.row place.col = ((w.cell? place).map Cell.display).getD "" := by
  rw [textRows_eq]
  split
  · next hempty =>
    rw [cell?, Grid.isEmpty_iff.1 hempty place]
    rfl
  · have hplaces : w.grid.toList.Pairwise fun a b => a.1 ≠ b.1 :=
      w.grid.sorted_toList.imp fun {a b} hlt heq => by
        rw [heq] at hlt
        simp at hlt
    obtain ⟨hstored, habsent⟩ := textAt_foldl_putText hplaces
      (fun entry hentry => row_lt_of_mem_toList h hentry)
      (fun entry _ => textAt_replicate ..) place
    cases hcell : w.cell? place with
    | some cell => exact hstored cell (Grid.mem_toList.2 hcell)
    | none =>
      rw [habsent fun entry hentry heq => ?_, textAt_replicate]
      · rfl
      · rw [← heq, cell?, Grid.mem_toList.1 hentry] at hcell
        cases hcell

theorem getLast?_textRows (w : Worksheet) : ∀ texts ∈ w.textRows, texts.getLast? ≠ some "" := by
  have hfold (entries : List (Coord × Cell)) (rows : List (List String))
      (h : ∀ texts ∈ rows, texts.getLast? ≠ some "") :
      ∀ texts ∈ entries.foldl putText rows, texts.getLast? ≠ some "" := by
    induction entries generalizing rows with
    | nil => exact h
    | cons entry entries ih => exact ih _ (getLast?_putText h)
  rw [textRows_eq]
  split
  · exact fun _ h => absurd h List.not_mem_nil
  · refine hfold _ _ fun texts htexts => ?_
    rw [List.eq_of_mem_replicate htexts]
    exact nofun

/-- The used area of a sheet that starts empty, whatever is done to it: its bounds are the largest
stored row and column, and 0 where nothing is stored.  Its texts are then listed without looking for a
row that is not there, in as many rows as it uses; each stands where its cell is stored, nothing stands
elsewhere, and no row ends with an empty text. -/
theorem usedArea_after (name : String) (changes : List Change) :
    let w := ({ name } : Worksheet).after changes
    w.grid.HasBounds ∧ w.textRows? = some w.textRows ∧
      w.textRows.length = (if w.grid.isEmpty then 0 else w.grid.maxRow + 1) ∧
      (∀ place, textAt w.textRows place.row place.col =
        ((w.cell? place).map Cell.display).getD "") ∧
      ∀ texts ∈ w.textRows, texts.getLast? ≠ some "" := by
  intro w
  have h : w.grid.HasBounds := hasBounds_after name changes
  exact ⟨h, textRows?_eq h, length_textRows w, textAt_textRows h, getLast?_textRows w⟩

/-- A text that ended the sheet is cleared, and a cell with a style and no text ends it now. -/
example :
    let w := Worksheet.after { name := "Orders" }
      [.setValue ⟨0, 1⟩ (.text "Item"), .setStyle ⟨2, 0⟩ 1, .setValue ⟨4, 3⟩ (.text "old"),
        .clearCell ⟨4, 3⟩]
    (w.grid.maxRow, w.grid.maxCol) = (2, 1) ∧ w.textRows = [["", "Item"], [], []] := by
  decide +kernel

end Worksheet

end SheetPress
