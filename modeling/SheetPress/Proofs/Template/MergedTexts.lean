import Mathlib
import SheetPress.Proofs.Coord.Regions
import SheetPress.Template.Table

/-!
# Texts of merged regions

The text in the first corner of a merged region is copied to the whole of it before a template is
read.  Rows may be too short for a region or not there at all; they grow to reach its last corner.
Regions that are apart do not get in each other's way.

* `textAt_fillMerged`, `length_fillMerged`, `length_rowTexts_fillMerged` — the texts, the number of
  rows and their lengths when one region has been filled.
* `fillMerged_comm` — two regions that are apart are filled in either order.
* `fillAllMerged_spec` — what is filled when all regions are, in whatever order.
-/

namespace SheetPress

section Padding

variable {α : Type}

theorem length_padTo (length : Nat) (blank : α) (items : List α) :
    (padTo length blank items).length = max items.length length := by
  rw [padTo, List.length_append, List.length_replicate]
  omega

theorem getD_getElem?_padTo (length : Nat) (blank : α) (items : List α) (i : Nat) :
    ((padTo length blank items)[i]?).getD blank = (items[i]?).getD blank := by
  unfold padTo
  rw [List.getElem?_append]
  split
  · rfl
  · next hlength =>
    rw [List.getElem?_eq_none (Nat.le_of_not_lt hlength), List.getElem?_replicate]
    split <;> rfl

end Padding

/-! ## Tables of texts -/

/-- The texts of a row; a row that is not there has none. -/
def rowTexts (rows : List (List String)) (row : Nat) : List String := (rows[row]?).getD []

section Tables

variable {rows rows' : List (List String)} {r s : Region} {regions regions' : List Region}

theorem textAt_eq (rows : List (List String)) (row col : Nat) :
    textAt rows row col = ((rowTexts rows row)[col]?).getD "" := by
  unfold textAt rowTexts
  cases rows[row]? <;> rfl

/-- A table is settled by the number of its rows, their lengths and its texts. -/
theorem eq_of_textAt (hlength : rows.length = rows'.length)
    (hrows : ∀ row, (rowTexts rows row).length = (rowTexts rows' row).length)
    (htexts : ∀ row col, textAt rows row col = textAt rows' row col) : rows = rows' := by
  have hrowTexts : ∀ {table : List (List String)} {row : Nat} (h : row < table.length),
      rowTexts table row = table[row] := fun h => by
    rw [rowTexts, List.getElem?_eq_getElem h, Option.getD_some]
  refine List.ext_getElem hlength fun row hrow hrow' => ?_
  have hcells := hrows row
  rw [hrowTexts hrow, hrowTexts hrow'] at hcells
  refine List.ext_getElem hcells fun col hcol hcol' => ?_
  have htext := htexts row col
  rwa [textAt_eq, textAt_eq, hrowTexts hrow, hrowTexts hrow', List.getElem?_eq_getElem hcol,
    List.getElem?_eq_getElem hcol', Option.getD_some, Option.getD_some] at htext

/-! ## One region -/

theorem length_fillMerged (rows : List (List String)) (r : Region) :
    (fillMerged rows r).length = max rows.length (r.endRow + 1) := by
  rw [fillMerged, List.length_mapIdx, length_padTo]

theorem rowTexts_fillMerged (rows : List (List String)) (r : Region) (row : Nat) :
    rowTexts (fillMerged rows r) row =
      if r.startRow ≤ row ∧ row ≤ r.endRow then
        (padTo (r.endCol + 1) "" (rowTexts rows row)).mapIdx fun col old =>
          if r.startCol ≤ col ∧ col ≤ r.endCol then textAt rows r.startRow r.startCol else old
      else rowTexts rows row := by
  have hpadded := getD_getElem?_padTo (r.endRow + 1) [] rows row
  unfold rowTexts fillMerged
  rw [List.getElem?_mapIdx, ← hpadded]
  cases hcells : (padTo (r.endRow + 1) [] rows)[row]? with
  | some cells => rfl
  | none =>
    -- only rows behind the region are not there
    rw [List.getElem?_eq_none_iff, length_padTo] at hcells
    rw [if_neg (by omega)]
    rfl

theorem length_rowTexts_fillMerged (rows : List (List String)) (r : Region) (row : Nat) :
    (rowTexts (fillMerged rows r) row).length =
      if r.startRow ≤ row ∧ row ≤ r.endRow then max (rowTexts rows row).length (r.endCol + 1)
      else (rowTexts rows row).length := by
  rw [rowTexts_fillMerged]
  split
  · rw [List.length_mapIdx, length_padTo]
  · rfl

/-- In the region the text of its first corner is read, everywhere else what was there. -/
theorem textAt_fillMerged (rows : List (List String)) (r : Region) (row col : Nat) :
    textAt (fillMerged rows r) row col =
      if r.contains row col then textAt rows r.startRow r.startCol else textAt rows row col := by
  have hcontains : r.contains row col = true ↔
      (r.startRow ≤ row ∧ row ≤ r.endRow) ∧ r.startCol ≤ col ∧ col ≤ r.endCol :=
    @Region.holds_iff r ⟨row, col⟩
  rw [textAt_eq, rowTexts_fillMerged, textAt_eq rows row]
  by_cases hrow : r.startRow ≤ row ∧ row ≤ r.endRow
  · have hpadded := getD_getElem?_padTo (r.endCol + 1) "" (rowTexts rows row) col
    rw [if_pos hrow, List.getElem?_mapIdx, ← hpadded]
    cases htext : (padTo (r.endCol + 1) "" (rowTexts rows row))[col]? with
    | some text =>
      simp only [hcontains, hrow, true_and, and_self, Option.map_some, Option.getD_some]
    | none =>
      -- only columns behind the region are not there
      rw [List.getElem?_eq_none_iff, length_padTo] at htext
      rw [if_neg fun h => by have := hcontains.1 h; omega]
      rfl
  · rw [if_neg hrow, if_neg fun h => hrow (hcontains.1 h).1]

/-- Two regions that are apart are filled in either order. -/
theorem fillMerged_comm (hapart : r.IsApart s) (hr : r.IsOrdered) (hs : s.IsOrdered) :
    fillMerged (fillMerged rows r) s = fillMerged (fillMerged rows s) r := by
  refine eq_of_textAt ?_ (fun row => ?_) fun row col => ?_
  · simp only [length_fillMerged]
    omega
  · simp only [length_rowTexts_fillMerged]
    split_ifs <;> omega
  · simp only [textAt_fillMerged, hapart.contains_corner hs,
      (symm hapart : s.IsApart r).contains_corner hr, Bool.false_eq_true, if_false]
    by_cases hin : s.contains row col = true
    · have hout : ¬ r.contains row col = true := fun hr => hapart ⟨row, col⟩ hr hin
      rw [if_pos hin, if_neg hout, if_pos hin]
    · rw [if_neg hin, if_neg hin]

/-! ## All regions -/

/-- Regions of which no two have a place in common, each with its corners in order. -/
structure AreApart (regions : List Region) : Prop where
  ordered : ∀ r ∈ regions, r.IsOrdered
  apart : regions.Pairwise Region.IsApart

theorem AreApart.tail (h : AreApart (r :: regions)) : AreApart regions where
  ordered := fun s hs => h.ordered s (List.mem_cons_of_mem _ hs)
  apart := (List.pairwise_cons.1 h.apart).2

/-- A region is the same as another one or apart from it. -/
theorem AreApart.eq_or_isApart (h : AreApart regions) (hr : r ∈ regions) (hs : s ∈ regions) :
    r = s ∨ r.IsApart s :=
  or_iff_not_imp_left.2 fun hne => h.apart.forall hr hs hne

/-- A region that is filled shows the text of its first corner, and what no region covers stays. -/
theorem textAt_fillAllMerged (h : AreApart regions) (place : Coord) :
    (∀ r ∈ regions, r.Holds place → textAt (fillAllMerged rows regions) place.row place.col =
        textAt rows r.startRow r.startCol) ∧
      ((∀ r ∈ regions, ¬ r.Holds place) →
        textAt (fillAllMerged rows regions) place.row place.col =
          textAt rows place.row place.col) := by
  unfold fillAllMerged
  induction regions generalizing rows with
  | nil => exact ⟨fun _ hr => absurd hr List.not_mem_nil, fun _ => rfl⟩
  | cons s regions ih =>
    obtain ⟨hapart, -⟩ := List.pairwise_cons.1 h.apart
    obtain ⟨hcovered, hfree⟩ := @ih (fillMerged rows s) h.tail
    rw [List.foldl_cons]
    refine ⟨fun r hr hplace => ?_, fun hnone => ?_⟩
    · rcases List.mem_cons.1 hr with rfl | hr
      · -- the regions that are filled behind this one leave it alone
        rw [hfree fun s hs => hapart s hs place hplace, textAt_fillMerged]
        exact if_pos hplace
      · rw [hcovered r hr hplace, textAt_fillMerged,
          (hapart r hr).contains_corner (h.tail.ordered r hr)]
        rfl
    · obtain ⟨hs, hnone⟩ := List.forall_mem_cons.1 hnone
      rw [hfree hnone, textAt_fillMerged]
      exact if_neg hs

/-- Regions that are apart are filled in any order. -/
theorem fillAllMerged_perm (h : AreApart regions) (hperm : regions.Perm regions') :
    fillAllMerged rows regions' = fillAllMerged rows regions := by
  refine (hperm.foldl_eq' (fun r hr s hs rows => ?_) rows).symm
  rcases h.eq_or_isApart hr hs with rfl | hapart
  · rfl
  · exact fillMerged_comm hapart (h.ordered r hr) (h.ordered s hs)

/-- Merged regions that are apart, whatever rows there are: a place in a region shows the text that
stood in its first corner, every other place shows its own, and the whole table, with the lengths of
its rows, does not depend on the order in which the regions come. -/
theorem fillAllMerged_spec (rows : List (List String)) (h : AreApart regions) :
    (∀ r ∈ regions, ∀ place, r.Holds place →
        textAt (fillAllMerged rows regions) place.row place.col =
          textAt rows r.startRow r.startCol) ∧
      (∀ place : Coord, (∀ r ∈ regions, ¬ r.Holds place) →
        textAt (fillAllMerged rows regions) place.row place.col =
          textAt rows place.row place.col) ∧
      ∀ regions', regions.Perm regions' →
        fillAllMerged rows regions' = fillAllMerged rows regions :=
  ⟨fun r hr place => (textAt_fillAllMerged h place).1 r hr,
    fun place => (textAt_fillAllMerged h place).2, fun _ => fillAllMerged_perm h⟩

end Tables

/-- Headings above columns that have fewer texts than the merged regions have rows and columns. -/
def headingRows : List (List String) := [["Header", "Region"], ["Header"], ["", "", "Year"]]

/-- A heading over two columns in two rows, and one that reaches below the last row. -/
def headingRegions : List Region := [⟨0, 1, 1, 2⟩, ⟨2, 2, 3, 3⟩]

theorem areApart_headingRegions : AreApart headingRegions := by
  have hregion : Region.IsOrdered ⟨0, 1, 1, 2⟩ := ⟨by decide, by decide⟩
  have hyear : Region.IsOrdered ⟨2, 2, 3, 3⟩ := ⟨by decide, by decide⟩
  refine ⟨List.forall_mem_cons.2 ⟨hregion, List.forall_mem_singleton.2 hyear⟩, ?_⟩
  exact List.pairwise_pair.2 ((Region.isApart_iff hregion hyear).2 (by decide))

/-- The headings, with the lower region filled first. -/
theorem fillAllMerged_spec_headings :
    AreApart headingRegions ∧
      fillAllMerged headingRows headingRegions =
        [["Header", "Region", "Region"], ["Header", "Region", "Region"],
          ["", "", "Year", "Year"], ["", "", "Year", "Year"]] ∧
      fillAllMerged headingRows headingRegions.reverse =
        fillAllMerged headingRows headingRegions ∧
      textAt (fillAllMerged headingRows headingRegions) 3 3 = textAt headingRows 2 2 ∧
      textAt (fillAllMerged headingRows headingRegions) 1 0 = textAt headingRows 1 0 := by
  obtain ⟨hcovered, hfree, horder⟩ := fillAllMerged_spec headingRows areApart_headingRegions
  refine ⟨areApart_headingRegions, by decide, horder _ (List.reverse_perm _).symm, ?_, ?_⟩
  · exact hcovered ⟨2, 2, 3, 3⟩ (by decide) ⟨3, 3⟩ (by decide)
  · exact hfree ⟨1, 0⟩ (by decide)

end SheetPress
