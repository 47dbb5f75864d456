import Mathlib
import SheetPress.Proofs.Formula.Rescanning
import SheetPress.Proofs.Sheet.CachedValues
import SheetPress.Proofs.Sheet.InsertRows

/-!
# Inserted rows that are deleted again

Deleting the first of some inserted rows is as if one row fewer had been inserted.  This holds of
the text of every formula, of cells, heights and regions, and so of the whole sheet; deleting all
inserted rows gives the sheet back.

* `shiftRowsForRemove_insert` — the text of a formula, whether it parses or not.
* `Worksheet.removeRow_insertRows` — a sheet after one of its inserted rows was deleted.
* `Worksheet.iterate_removeRow_insertRows` — a sheet after all of them were deleted.
-/

namespace SheetPress

/-! ## Rows as formulas write them -/

/-- A row is written in ASCII digits without leading zeros, and still fits an index when `count` rows
are added. -/
def CornerText.HasPlainRow (count : Nat) (corner : CornerText) : Prop :=
  corner.digits = Nat.toDigits 10 (digitsValue corner.digits) ∧
    digitsValue corner.digits + count < indexLimit

instance (count : Nat) (corner : CornerText) : Decidable (corner.HasPlainRow count) :=
  inferInstanceAs (Decidable (_ ∧ _))

/-- A reference to its own sheet writes its rows plainly. -/
def Piece.HasPlainRows (count : Nat) : Piece → Prop
  | .char _ => True
  | .reference source ref => ref.qualified = false →
      ∀ corner ∈ source.first :: source.last.toList, corner.HasPlainRow count

instance (count : Nat) : DecidablePred (Piece.HasPlainRows count)
  | .char _ => .isTrue trivial
  | .reference source ref => inferInstanceAs (Decidable (ref.qualified = false →
      ∀ corner ∈ source.first :: source.last.toList, corner.HasPlainRow count))

/-- Every reference of a formula to its own sheet writes its rows plainly. -/
def PlainRows (count : Nat) (formula : String) : Prop :=
  ∀ piece ∈ piecesOf formula.toList, piece.HasPlainRows count

instance (count : Nat) (formula : String) : Decidable (PlainRows count formula) :=
  inferInstanceAs (Decidable (∀ piece ∈ piecesOf formula.toList, piece.HasPlainRows count))

theorem PlainRows.mono {m count : Nat} {formula : String} (h : PlainRows count formula)
    (hle : m ≤ count) : PlainRows m formula := by
  intro piece hmem
  have hpiece := h piece hmem
  cases piece with
  | char c => trivial
  | reference source ref =>
    intro hown corner hcorner
    obtain ⟨hdigits, hlt⟩ := hpiece hown corner hcorner
    exact ⟨hdigits, by omega⟩

theorem CornerText.HasPlainRow.exists_ref {count : Nat} {corner : CornerText}
    (h : corner.HasPlainRow count) :
    ∃ ref : CellRef, corner.ref? = some ref ∧ ref.corner = corner ∧ ref.row + count < indexLimit := by
  obtain ⟨columnFixed, letters, rowFixed, digits⟩ := corner
  obtain ⟨hdigits, hlt⟩ := h
  dsimp only at hdigits hlt
  refine ⟨⟨String.ofList letters, digitsValue digits, columnFixed, rowFixed⟩, ?_, ?_, hlt⟩
  · rw [CornerText.ref?, hdigits, readNat?_toDigits (by omega), ← hdigits]
    rfl
  · rw [CellRef.corner, String.toList_ofList, ← hdigits]

namespace Reference

variable {r : Reference} {start count : Nat}

/-- A reference after rows were inserted. -/
def insertRows (start count : Nat) (r : Reference) : Reference :=
  ⟨r.first.insertRows start count, r.last.map (·.insertRows start count), r.qualified⟩

/-- The reference that an insertion writes, if it moves. -/
def insertedRows? (start count : Nat) (r : Reference) : Option Reference :=
  if r.qualified ∨ r.insertRows start count = r then none else some (r.insertRows start count)

theorem insertRows?_eq (start count : Nat) (r : Reference) :
    r.insertRows? start count = (r.insertedRows? start count).map text := by
  unfold insertRows? insertedRows?
  show (if r.qualified = true ∨ r.insertRows start count = r then none
    else some (r.insertRows start count).text) = _
  split <;> rfl

/-- All rows of a reference still fit an index when `count` rows are added. -/
def RowsFit (count : Nat) (r : Reference) : Prop :=
  ∀ corner ∈ r.first :: r.last.toList, corner.row + count < indexLimit

end Reference

/-- A reference with plain rows is written as its text says. -/
theorem PlainRows.spelling_eq {count : Nat} {formula : String} (h : PlainRows count formula)
    {source : ReferenceText} {ref : Reference}
    (hmem : .reference source ref ∈ piecesOf formula.toList) (hown : ref.qualified = false) :
    ref.spelling = source ∧ ref.RowsFit count := by
  obtain ⟨first, last⟩ := source
  have hplain := h _ hmem hown
  obtain ⟨a, ha, hfirst, hlt⟩ := (hplain first (List.mem_cons_self ..)).exists_ref
  have href := (of_mem_piecesFrom hmem).2
  rw [hown, ReferenceText.reference?, ha] at href
  obtain rfl := Option.some.inj href
  cases last with
  | none =>
    refine ⟨?_, fun corner hcorner => ?_⟩
    · simp [Reference.spelling, hfirst]
    · obtain rfl : corner = a := by simpa using hcorner
      exact hlt
  | some last =>
    obtain ⟨b, hb, hlast, hlt'⟩ := (hplain last (by simp)).exists_ref
    refine ⟨?_, fun corner hcorner => ?_⟩
    · simp [Reference.spelling, hfirst, hb, hlast]
    · obtain rfl | rfl : corner = a ∨ corner = b := by simpa [hb] using hcorner
      · exact hlt
      · exact hlt'

/-! ## The text of a formula -/

section Text

variable {start n : Nat} {formula : String}

theorem shiftedRow_of_lt {start count row : Nat} (h : start < row) :
    shiftedRow start count row = row + count := if_pos h

theorem shiftedRow_of_le {start count row : Nat} (h : row ≤ start) :
    shiftedRow start count row = row := if_neg (by omega)

theorem shiftedRow_lt {start count row limit : Nat} (h : row + count < limit) :
    shiftedRow start count row < limit := by
  rcases Nat.lt_or_ge start row with hrow | hrow
  · rwa [shiftedRow_of_lt hrow]
  · rw [shiftedRow_of_le hrow]
    omega

/-- The reference that an insertion writes can stand where the old one stood. -/
theorem Reference.replaces_insertRows {source : ReferenceText} {ref : Reference} {count : Nat}
    (hspelled : source.Spelled) (hspelling : ref.spelling = source) (hfit : ref.RowsFit count) :
    Replaces source ref (ref.insertRows start count) := by
  obtain ⟨first, last, qualified⟩ := ref
  subst hspelling
  have hcorner : ∀ a : CellRef, a.corner.Spelled → (a.insertRows start count).corner.Spelled :=
    fun a ha => ⟨ha.letters_ne_nil, ha.isUpper, Nat.toDigits_ne_nil, fun c hc =>
      isDecimalDigit_of_isAsciiDigit (isAsciiDigit_of_mem_toDigits hc)⟩
  have hrow : ∀ a ∈ first :: last.toList, (a.insertRows start count).row < indexLimit := fun a ha =>
    shiftedRow_lt (hfit a ha)
  cases last with
  | none =>
    refine Reference.replaces ⟨hcorner _ hspelled.1, by simp [spelling, insertRows]⟩ ?_ rfl fun _ => rfl
    simpa [insertRows] using hrow
  | some last =>
    refine Reference.replaces ⟨hcorner _ hspelled.1, ?_⟩ ?_ rfl (by simp [insertRows])
    · simpa [spelling, insertRows] using hcorner _ (hspelled.2 _ rfl)
    · simpa [insertRows] using hrow

theorem removeFromSpan_shiftedRow (start n a b : Nat) :
    removeFromSpan (start + 1) (shiftedRow start (n + 1) a) (shiftedRow start (n + 1) b) =
      if a ≤ start ∧ b ≤ start then .kept
      else .moved (shiftedRow start n a) (shiftedRow start n b) := by
  unfold removeFromSpan
  rcases Nat.lt_or_ge start a with ha | ha <;> rcases Nat.lt_or_ge start b with hb | hb
  · simp only [shiftedRow_of_lt ha, shiftedRow_of_lt hb]
    rw [if_neg (by omega), if_neg (by omega), if_pos (by omega), if_neg (by omega)]
    rfl
  · simp only [shiftedRow_of_lt ha, shiftedRow_of_le hb]
    rw [if_neg (by omega), if_neg (by omega), if_neg (by omega), if_pos (by omega),
      if_neg (by omega)]
    rfl
  · simp only [shiftedRow_of_le ha, shiftedRow_of_lt hb]
    rw [if_neg (by omega), if_neg (by omega), if_neg (by omega), if_neg (by omega),
      if_neg (by omega)]
    rfl
  · simp only [shiftedRow_of_le ha, shiftedRow_of_le hb]
    rw [if_pos (by omega), if_pos ⟨ha, hb⟩]

/-- A reference after one of the inserted rows was deleted. -/
theorem Reference.removeRow?_insertRows {r : Reference} (start n : Nat)
    (hown : r.qualified = false) :
    ((r.insertRows start (n + 1)).removeRow? (start + 1)).getD (r.insertRows start (n + 1)).text =
      (r.insertRows start n).text := by
  obtain ⟨first, last, qualified⟩ := r
  obtain rfl : qualified = false := hown
  have hspan : ∀ b : CellRef, removeFromSpan (start + 1) (first.insertRows start (n + 1)).row
      (b.insertRows start (n + 1)).row = _ := fun b =>
    removeFromSpan_shiftedRow start n first.row b.row
  have hkept : ∀ a : CellRef, a.row ≤ start → a.insertRows start (n + 1) = a.insertRows start n :=
    fun a ha => by
      simp only [CellRef.insertRows, shiftedRow_of_le ha]
  cases last with
  | none =>
    simp only [insertRows, removeRow?, Option.map_none, Option.getD_none, hspan]
    by_cases hfirst : first.row ≤ start
    · simp [hfirst, hkept]
    · simp [hfirst, CellRef.insertRows]
  | some last =>
    simp only [insertRows, removeRow?, Option.map_some, Option.getD_some, hspan]
    by_cases hboth : first.row ≤ start ∧ last.row ≤ start
    · simp [hboth, hkept]
    · simp [hboth, CellRef.insertRows]

/-- The text of a piece after rows were inserted. -/
theorem Reference.insertRows?_getD {r : Reference} (start count : Nat) (hown : r.qualified = false) :
    (r.insertRows? start count).getD r.text = (r.insertRows start count).text := by
  rw [insertRows?_eq, insertedRows?]
  by_cases hsame : r.insertRows start count = r
  · rw [if_pos (.inr hsame), hsame]
    rfl
  · rw [if_neg (by simp [hown, hsame])]
    rfl

theorem Piece.edited_spelling (f : Reference → Option String) (r : Reference) :
    (Piece.reference r.spelling r).edited f = ((f r).getD r.text).toList := by
  rw [Piece.edited, ← r.toList_text]
  cases f r <;> rfl

theorem Piece.respell_insertedRows {r : Reference} (start count : Nat) (hown : r.qualified = false) :
    (Piece.reference r.spelling r).respell (·.insertedRows? start count) =
      .reference (r.insertRows start count).spelling (r.insertRows start count) := by
  rw [respell, Reference.insertedRows?]
  by_cases hsame : r.insertRows start count = r
  · rw [if_pos (.inr hsame), hsame]
  · rw [if_neg (by simp [hown, hsame])]

/-- The text of a formula after one of the inserted rows was deleted. -/
theorem shiftRowsForRemove_insert (h : PlainRows (n + 1) formula) (start : Nat) :
    shiftRowsForRemove (shiftRowsForInsert formula start (n + 1)) start =
      shiftRowsForInsert formula start n := by
  have hinsert : shiftRowsForInsert formula start (n + 1) =
      mapReferences (fun r => (r.insertedRows? start (n + 1)).map Reference.text) formula := by
    unfold shiftRowsForInsert
    congr 1
    funext r
    exact r.insertRows?_eq start (n + 1)
  have hreplaces : ∀ source ref r, .reference source ref ∈ piecesOf formula.toList →
      ref.insertedRows? start (n + 1) = some r → Replaces source ref r := by
    intro source ref r hmem hr
    unfold Reference.insertedRows? at hr
    split at hr
    · cases hr
    · next hmoves =>
      obtain rfl := Option.some.inj hr
      rw [not_or, Bool.not_eq_true] at hmoves
      obtain ⟨hspelling, hfit⟩ := h.spelling_eq hmem hmoves.1
      exact Reference.replaces_insertRows (of_mem_piecesFrom hmem).1 hspelling hfit
  rw [shiftRowsForRemove, mapReferences_eq_flatMap, hinsert, piecesOf_mapReferences hreplaces,
    List.flatMap_map, shiftRowsForInsert, mapReferences_eq_flatMap]
  congr 1
  refine List.flatMap_congr fun piece hmem => ?_
  cases piece with
  | char c => rfl
  | reference source ref =>
    cases hown : ref.qualified with
    | true =>
      simp [Piece.respell, Reference.insertedRows?, Piece.edited, Reference.removeRow?,
        Reference.insertRows?, hown]
    | false =>
      obtain ⟨rfl, -⟩ := h.spelling_eq hmem hown
      rw [Piece.respell_insertedRows start (n + 1) hown, Piece.edited_spelling, Piece.edited_spelling,
        Reference.insertRows?_getD start n hown,
        Reference.removeRow?_insertRows start n hown]

end Text

/-- A cell after one of the inserted rows was deleted. -/
theorem Cell.mapFormula_insertRows {n : Nat} {cell : Cell}
    (h : ∀ formula ∈ cell.formula, PlainRows (n + 1) formula) (start : Nat) :
    (cell.insertRows start (n + 1)).mapFormula (shiftRowsForRemove · start) =
      cell.insertRows start n := by
  obtain ⟨formula, value, style⟩ := cell
  cases formula with
  | none => rfl
  | some formula =>
    have := shiftRowsForRemove_insert (h formula rfl) start
    simp only [insertRows, mapFormula, Option.map_some, this]

/-! ## Lines -/

/-- A line after the first of the inserted ones was deleted. -/
theorem movedByRemove_insert (start n line : Nat) :
    movedByRemove start (movedByInsert start (n + 1) line) = some (movedByInsert start n line) := by
  rw [movedByRemove_eq, movedByInsert_eq, movedByInsert_eq]
  split_ifs <;> first | rfl | omega

theorem movedByInsert_zero (start line : Nat) : movedByInsert start 0 line = line := by
  simp [movedByInsert_eq]

theorem movedByInsert_injective (start count : Nat) :
    Function.Injective (movedByInsert start count) := by
  intro a b hab
  rw [movedByInsert_eq, movedByInsert_eq] at hab
  split_ifs at hab <;> omega

/-- A line is a new one, or it was moved there. -/
theorem exists_movedByInsert (start count line : Nat) :
    (start ≤ line ∧ line < start + count) ∨ ∃ old, movedByInsert start count old = line := by
  rcases Nat.lt_or_ge line start with hfront | hfront
  · exact .inr ⟨line, if_neg (by omega)⟩
  · rcases Nat.lt_or_ge line (start + count) with hnew | hbehind
    · exact .inl ⟨hfront, hnew⟩
    · refine .inr ⟨line - count, ?_⟩
      rw [movedByInsert_eq, if_pos (by omega)]
      omega

/-! ## Cells -/

/-- A grid whose bounds are those of its stored cells. -/
def Grid.IsTight (g : Grid) : Prop := g.tighten = g

namespace Grid

theorem isTight_rekey (g : Grid) (f : Coord → Option Coord) : (g.rekey f).IsTight := rfl

theorem foldl_mapCells {α : Type*} (g : Grid) (f : Cell → Cell) (step : α → Coord → α) (a : α) :
    (g.mapCells f).toList.foldl (fun a (place, _) => step a place) a =
      g.toList.foldl (fun a (place, _) => step a place) a := by
  rw [toList_mapCells, List.foldl_map]

theorem IsTight.mapCells {g : Grid} (h : g.IsTight) (f : Cell → Cell) : (g.mapCells f).IsTight := by
  have hrow : g.tighten.maxRow = g.maxRow := congrArg maxRow h
  have hcol : g.tighten.maxCol = g.maxCol := congrArg maxCol h
  have hrow' : (g.mapCells f).tighten.maxRow = g.maxRow :=
    (foldl_mapCells g f (fun m place => max m place.row) 0).trans hrow
  have hcol' : (g.mapCells f).tighten.maxCol = g.maxCol :=
    (foldl_mapCells g f (fun m place => max m place.col) 0).trans hcol
  exact ext_get? hrow' hcol' fun _ => rfl

/-- Tight grids with the same cells are equal. -/
theorem IsTight.ext {g g' : Grid} (h : g.IsTight) (h' : g'.IsTight)
    (hget : ∀ place, g.get? place = g'.get? place) : g = g' := by
  have hcells : g.cells = g'.cells := Std.ExtTreeMap.ext_getElem? hget
  have htighten : g.tighten = g'.tighten := by
    unfold tighten toList
    rw [hcells]
  exact h.symm.trans (htighten.trans h')

end Grid

namespace Worksheet

variable {w : Worksheet} {start n : Nat}

theorem insertRows_zero (w : Worksheet) (start : Nat) : w.insertRows start 0 = w := if_pos rfl

theorem isTight_insertRows (h : w.grid.IsTight) (start count : Nat) :
    (w.insertRows start count).grid.IsTight := by
  by_cases hcount : count = 0
  · rw [hcount, insertRows_zero]
    exact h
  · rw [grid_insertRows w start hcount]
    exact (Grid.isTight_rekey ..).mapCells _

/-- The stored cells of a sheet after rows were inserted, if any. -/
theorem cell?_insertRows (w : Worksheet) (start count : Nat) (place : Coord) :
    (w.insertRows start count).cell? (place.insertRows start count) =
      (w.cell? place).map (Cell.insertRows start count) := by
  by_cases hcount : count = 0
  · subst hcount
    have hcell : Cell.insertRows start 0 = id := by
      funext cell
      obtain ⟨formula, value, style⟩ := cell
      cases formula <;> simp [Cell.insertRows, Cell.mapFormula, shiftRowsForInsert_zero]
    rw [insertRows_zero, hcell, Option.map_id, Coord.insertRows, movedByInsert_zero]
    rfl
  · exact w.get?_insertRows start hcount place

theorem cell?_insertRows_new (w : Worksheet) {start count : Nat} {place : Coord}
    (hstart : start ≤ place.row) (hend : place.row < start + count) :
    (w.insertRows start count).cell? place = none := by
  refine w.get?_insertRows_new start (by omega) (fun r => ?_) place.col
  rw [movedByInsert_eq]
  split <;> omega

/-- The cells of a sheet after one of the inserted rows was deleted. -/
theorem cell?_removeRow_insertRows
    (h : ∀ place formula, w.formula? place = some formula → PlainRows (n + 1) formula)
    (start : Nat) (place : Coord) :
    ((w.insertRows start (n + 1)).removeRow start).cell? place =
      (w.insertRows start n).cell? place := by
  obtain ⟨row, col⟩ := place
  rcases exists_movedByInsert start n row with ⟨hstart, hend⟩ | ⟨old, rfl⟩
  · have hbehind : (⟨row + 1, col⟩ : Coord).removeRow? start = some ⟨row, col⟩ := by
      rw [Coord.removeRow?, movedByRemove_eq, if_neg (by dsimp only; omega),
        if_neg (by dsimp only; omega)]
      rfl
    rw [cell?_removeRow _ hbehind, w.cell?_insertRows_new (by dsimp only; omega)
      (by dsimp only; omega), w.cell?_insertRows_new hstart hend]
    rfl
  · have hmoved : ((⟨old, col⟩ : Coord).insertRows start (n + 1)).removeRow? start =
        some ((⟨old, col⟩ : Coord).insertRows start n) := by
      rw [Coord.removeRow?, Coord.insertRows, movedByRemove_insert]
      rfl
    have hcell := w.cell?_insertRows start n ⟨old, col⟩
    have hcell' := cell?_removeRow (w.insertRows start (n + 1)) hmoved
    rw [Coord.insertRows] at hcell hcell'
    rw [hcell, hcell', w.cell?_insertRows, Option.map_map]
    cases hget : w.cell? ⟨old, col⟩ with
    | none => rfl
    | some cell =>
      refine congrArg some (Cell.mapFormula_insertRows (fun formula hformula => ?_) start)
      refine h ⟨old, col⟩ formula ?_
      rw [formula?, hget]
      exact hformula

end Worksheet

/-! ## Heights -/

namespace LineSizes

/-- The sizes at a line after a move came from the line that moved there. -/
theorem getElem?_rekey {sizes : LineSizes} {f : Nat → Option Nat}
    (h : ∀ a b target, f a = some target → f b = some target → a = b) {target : Nat}
    {size : Float} :
    (sizes.rekey f)[target]? = some size ↔ ∃ line, sizes[line]? = some size ∧ f line = some target := by
  have hdistinct : (sizes.toList.filterMap fun entry =>
      (f entry.1).map fun target => (target, entry.2)).Pairwise
        fun a b => ¬ compare a.1 b.1 = .eq := by
    refine List.Pairwise.filterMap _ (fun a b hab a' ha b' hb => ?_)
      (Std.ExtTreeMap.distinct_keys_toList (t := sizes))
    obtain ⟨ta, hta, rfl⟩ := Option.map_eq_some_iff.1 ha
    obtain ⟨tb, htb, rfl⟩ := Option.map_eq_some_iff.1 hb
    intro heq
    obtain rfl : ta = tb := Nat.compare_eq_eq.1 heq
    exact hab (Nat.compare_eq_eq.2 (h _ _ _ hta htb))
  rw [rekey, ← Std.ExtTreeMap.ofList_eq_foldl, getElem?_ofList_eq_some_iff hdistinct]
  simp only [List.mem_filterMap, Option.map_eq_some_iff, Prod.exists, Prod.mk.injEq,
    Std.ExtTreeMap.mem_toList_iff_getElem?_eq_some]
  constructor
  · rintro ⟨line, size', hget, target', htarget, rfl, rfl⟩
    exact ⟨line, hget, htarget⟩
  · rintro ⟨line, hget, htarget⟩
    exact ⟨line, size, hget, target, htarget, rfl, rfl⟩

variable {sizes : LineSizes} {start n : Nat}

theorem getElem?_insert {start count target : Nat} {size : Float} :
    (sizes.rekey fun line => some (movedByInsert start count line))[target]? = some size ↔
      ∃ line, sizes[line]? = some size ∧ movedByInsert start count line = target := by
  rw [getElem?_rekey fun a b target ha hb => movedByInsert_injective start count
    (Option.some.inj (ha.trans hb.symm))]
  simp only [Option.some.injEq]

theorem rekey_insert_zero (sizes : LineSizes) (start : Nat) :
    (sizes.rekey fun line => some (movedByInsert start 0 line)) = sizes := by
  refine Std.ExtTreeMap.ext_getElem? fun {target} => Option.ext fun size => ?_
  rw [getElem?_insert]
  simp [movedByInsert_zero]

/-- The sizes after one of the inserted lines was deleted. -/
theorem rekey_remove_insert (sizes : LineSizes) (start n : Nat) :
    (sizes.rekey fun line => some (movedByInsert start (n + 1) line)).rekey (movedByRemove start) =
      sizes.rekey fun line => some (movedByInsert start n line) := by
  refine Std.ExtTreeMap.ext_getElem? fun {target} => Option.ext fun size => ?_
  have hremove : ∀ a b target, movedByRemove start a = some target →
      movedByRemove start b = some target → a = b := by
    intro a b target ha hb
    rcases Nat.lt_trichotomy a b with hab | hab | hab
    · exact absurd (lt_of_movedByRemove ha hb hab) (lt_irrefl _)
    · exact hab
    · exact absurd (lt_of_movedByRemove hb ha hab) (lt_irrefl _)
  rw [getElem?_rekey hremove, getElem?_insert]
  simp only [getElem?_insert]
  constructor
  · rintro ⟨_, ⟨line, hget, rfl⟩, hline⟩
    rw [movedByRemove_insert] at hline
    exact ⟨line, hget, Option.some.inj hline⟩
  · rintro ⟨line, hget, rfl⟩
    exact ⟨_, ⟨line, hget, rfl⟩, movedByRemove_insert start n line⟩

end LineSizes

/-! ## Regions -/

namespace Region

variable {region : Region} {start n : Nat}

theorem insertRows_zero (region : Region) (start : Nat) : region.insertRows start 0 = region := by
  obtain ⟨startRow, startCol, endRow, endCol⟩ := region
  simp [insertRows]

/-- A region after one of the inserted rows was deleted. -/
theorem removeRow?_insertRows (h : region.startRow ≤ region.endRow) (start n : Nat) :
    (region.insertRows start (n + 1)).removeRow? start = some (region.insertRows start n) := by
  obtain ⟨startRow, startCol, endRow, endCol⟩ := region
  dsimp only at h
  simp only [insertRows]
  rcases Nat.lt_or_ge startRow start with hfront | hbehind
  · rcases Nat.lt_or_ge endRow start with hbefore | haround
    · rw [if_neg (by omega), if_neg (by omega), if_neg (by omega), if_neg (by omega), removeRow?,
        shrinkSpan, if_pos hbefore]
      rfl
    · rw [if_neg (by omega), if_pos haround, if_neg (by omega), if_pos haround, removeRow?,
        shrinkSpan, if_neg (by dsimp only; omega), if_neg (by dsimp only; omega),
        if_neg (by dsimp only; omega)]
      rfl
  · rw [if_pos hbehind, if_pos hbehind, removeRow?, shrinkSpan, if_neg (by dsimp only; omega),
      if_pos (by dsimp only; omega)]
    rfl

/-- A region does not become a single cell when rows are inserted. -/
theorem isSingleCell_insertRows (h : region.startRow ≤ region.endRow)
    (hcells : region.isSingleCell = false) (start count : Nat) :
    (region.insertRows start count).isSingleCell = false := by
  obtain ⟨startRow, startCol, endRow, endCol⟩ := region
  dsimp only at h
  simp only [isSingleCell, Bool.and_eq_false_iff, beq_eq_false_iff_ne] at hcells ⊢
  unfold insertRows
  dsimp only
  split_ifs <;> dsimp only <;> omega

end Region

/-! ## Whole sheets -/

namespace Worksheet

/-- A sheet that inserted rows leave no trace on: the bounds of its grid are those of its cells, its
regions are given from top to bottom, no single cell is merged, and its formulas write their rows
plainly. -/
structure Restorable (count : Nat) (w : Worksheet) : Prop where
  isTight : w.grid.IsTight
  ordered : ∀ region ∈ w.merged ++ w.filter.toList, region.startRow ≤ region.endRow
  isSingleCell : ∀ region ∈ w.merged, region.isSingleCell = false
  plainRows : ∀ place formula, w.formula? place = some formula → PlainRows count formula

variable {w : Worksheet} {count : Nat}

theorem Restorable.mono {m : Nat} (h : w.Restorable count) (hle : m ≤ count) : w.Restorable m :=
  ⟨h.isTight, h.ordered, h.isSingleCell, fun place formula hformula =>
    (h.plainRows place formula hformula).mono hle⟩

theorem rowHeights_insertRows (w : Worksheet) (start count : Nat) :
    (w.insertRows start count).rowHeights =
      w.rowHeights.rekey fun line => some (movedByInsert start count line) := by
  unfold insertRows
  split
  · next hcount => rw [hcount, LineSizes.rekey_insert_zero]
  · rfl

theorem merged_insertRows (w : Worksheet) (start count : Nat) :
    (w.insertRows start count).merged = w.merged.map (·.insertRows start count) := by
  unfold insertRows
  split
  · next hcount => simp [hcount, Region.insertRows_zero]
  · rfl

theorem filter_insertRows (w : Worksheet) (start count : Nat) :
    (w.insertRows start count).filter = w.filter.map (·.insertRows start count) := by
  unfold insertRows
  split
  · next hcount =>
    rw [hcount]
    cases w.filter <;> simp [Region.insertRows_zero]
  · rfl

theorem name_insertRows (w : Worksheet) (start count : Nat) :
    (w.insertRows start count).name = w.name := by
  unfold insertRows
  split <;> rfl

theorem columnWidths_insertRows (w : Worksheet) (start count : Nat) :
    (w.insertRows start count).columnWidths = w.columnWidths := by
  unfold insertRows
  split <;> rfl

theorem Restorable.merged_removeRow {n : Nat} (h : w.Restorable (n + 1)) (start : Nat) :
    ((w.insertRows start (n + 1)).removeRow start).merged = (w.insertRows start n).merged := by
  have hordered : ∀ region ∈ w.merged, region.startRow ≤ region.endRow := fun region hregion =>
    h.ordered region (List.mem_append_left _ hregion)
  have hmoved : (w.merged.map (·.insertRows start (n + 1))).filterMap (·.removeRow? start) =
      w.merged.map (·.insertRows start n) := by
    rw [List.filterMap_map, ← List.filterMap_eq_map]
    exact List.filterMap_congr fun region hregion =>
      Region.removeRow?_insertRows (hordered region hregion) start n
  show ((w.insertRows start (n + 1)).merged.filterMap (·.removeRow? start)).filter
    (! ·.isSingleCell) = _
  rw [merged_insertRows, hmoved, merged_insertRows, List.filter_eq_self]
  intro region hregion
  obtain ⟨old, hold, rfl⟩ := List.mem_map.1 hregion
  rw [Region.isSingleCell_insertRows (hordered old hold) (h.isSingleCell old hold)]
  rfl

theorem Restorable.filter_removeRow {n : Nat} (h : w.Restorable (n + 1)) (start : Nat) :
    ((w.insertRows start (n + 1)).removeRow start).filter = (w.insertRows start n).filter := by
  show (w.insertRows start (n + 1)).filter.bind (·.removeRow? start) = _
  rw [filter_insertRows, filter_insertRows]
  cases hfilter : w.filter with
  | none => rfl
  | some region =>
    exact Region.removeRow?_insertRows (h.ordered region (by simp [hfilter])) start n

/-- Deleting the first of some inserted rows is as if one row fewer had been inserted. -/
theorem Restorable.removeRow_insertRows {n : Nat} (h : w.Restorable (n + 1)) (start : Nat) :
    (w.insertRows start (n + 1)).removeRow start = w.insertRows start n := by
  have hext : ∀ a b : Worksheet, a.name = b.name → a.grid = b.grid → a.rowHeights = b.rowHeights →
      a.columnWidths = b.columnWidths → a.merged = b.merged → a.filter = b.filter → a = b := by
    rintro ⟨⟩ ⟨⟩ rfl rfl rfl rfl rfl rfl
    rfl
  refine hext _ _ ?_ ?_ ?_ ?_ (h.merged_removeRow start) (h.filter_removeRow start)
  · exact (name_insertRows ..).trans (name_insertRows ..).symm
  · refine Grid.IsTight.ext ((Grid.isTight_rekey ..).mapCells _)
      (isTight_insertRows h.isTight start n) ?_
    exact cell?_removeRow_insertRows h.plainRows start
  · show (w.insertRows start (n + 1)).rowHeights.rekey (movedByRemove start) = _
    rw [rowHeights_insertRows, rowHeights_insertRows, LineSizes.rekey_remove_insert]
  · exact (columnWidths_insertRows ..).trans (columnWidths_insertRows ..).symm

/-- Rows that are inserted and deleted again leave a sheet as it was: its cells with their formulas,
values and styles, its bounds, heights, widths, merged regions and filtered region. -/
theorem iterate_removeRow_insertRows (start : Nat) (h : w.Restorable count) :
    (fun w => w.removeRow start)^[count] (w.insertRows start count) = w := by
  induction count with
  | zero => exact insertRows_zero w start
  | succ n ih =>
    rw [Function.iterate_succ_apply, h.removeRow_insertRows start]
    exact ih (h.mono (Nat.le_succ n))

/-- A sheet with a sum over a range, a text that is no formula, and a row of its own height, merged
and filtered. -/
def orderSheet : Worksheet where
  name := "Orders"
  grid := ((({} : Grid).set ⟨0, 0⟩ { value := .text "Total" }).set ⟨3, 0⟩
    { formula := some "=SUM(A$2:B4)+LOG10(C3)" }).set ⟨5, 1⟩ { formula := some "=B1:+'A1'!A0(" }
  rowHeights := (∅ : LineSizes).insert 3 30.5
  merged := [⟨0, 0, 0, 2⟩, ⟨1, 1, 3, 1⟩]
  filter := some ⟨0, 0, 5, 1⟩

theorem restorable_orderSheet : orderSheet.Restorable 2 := by
  refine ⟨Grid.ext_get? (by decide +kernel) (by decide +kernel) fun _ => rfl, by decide, by decide,
    fun place formula hformula => ?_⟩
  obtain rfl | rfl :
      formula = "=SUM(A$2:B4)+LOG10(C3)" ∨ formula = "=B1:+'A1'!A0(" := by
    simp only [formula?, cell?, orderSheet, Grid.get?_set] at hformula
    split_ifs at hformula
    · exact .inr (Option.some.inj hformula).symm
    · exact .inl (Option.some.inj hformula).symm
    · cases hformula
    · cases hformula
  · decide +kernel
  · decide +kernel

end Worksheet

end SheetPress
