import Mathlib
import SheetPress.Sheet.Edit

/-!
# Cells of a grid that moves

Reading the cells of a grid after it was changed: after cells were stored or erased, after all of
them were changed in place, and after all of them were moved.

* `Grid.get?_rekey` — the cell at a place came from the one place that moved there.
* `Grid.toList_rekey` — a move that keeps the reading order keeps the order of the stored cells.
-/

namespace SheetPress

/-! ## Reading order -/

theorem Coord.compare_eq_lt {a b : Coord} :
    compare a b = .lt ↔ a.row < b.row ∨ a.row = b.row ∧ a.col < b.col := by
  rw [Coord.compare_def, Ordering.then_eq_lt]
  simp [Nat.compare_eq_lt]

theorem Coord.compare_eq_eq {a b : Coord} : compare a b = .eq ↔ a = b :=
  Std.LawfulEqOrd.compare_eq_iff_eq

/-! ## Maps from lists -/

/-- A map that is made of a list with distinct keys holds the entries of the list. -/
theorem getElem?_ofList_eq_some_iff {α β : Type*} [DecidableEq α] [Ord α] [Std.TransOrd α]
    [Std.LawfulEqOrd α] {entries : List (α × β)}
    (h : entries.Pairwise fun a b => ¬ compare a.1 b.1 = .eq) {key : α} {value : β} :
    (Std.ExtTreeMap.ofList entries)[key]? = some value ↔ (key, value) ∈ entries := by
  have hself : compare key key = .eq := Std.ReflCmp.compare_self
  constructor
  · intro hget
    by_contra hmem
    by_cases hkey : ∃ value', (key, value') ∈ entries
    · obtain ⟨value', hmem'⟩ := hkey
      have := Std.ExtTreeMap.getElem?_ofList_of_mem hself h hmem'
      rw [hget] at this
      cases this
      exact hmem hmem'
    · rw [Std.ExtTreeMap.getElem?_ofList_of_contains_eq_false] at hget
      · cases hget
      · simpa using hkey
  · intro hmem
    exact Std.ExtTreeMap.getElem?_ofList_of_mem hself h hmem

namespace Grid

/-! ## Stored cells -/

theorem mem_toList {g : Grid} {place : Coord} {cell : Cell} :
    (place, cell) ∈ g.toList ↔ g.get? place = some cell :=
  Std.ExtTreeMap.mem_toList_iff_getElem?_eq_some

theorem sorted_toList (g : Grid) : g.toList.Pairwise fun a b => compare a.1 b.1 = .lt :=
  Std.ExtTreeMap.ordered_keys_toList

/-- Cells that are listed in reading order are listed in one way only. -/
theorem eq_of_sorted {cells cells' : List (Coord × Cell)}
    (h : cells.Pairwise fun a b => compare a.1 b.1 = .lt)
    (h' : cells'.Pairwise fun a b => compare a.1 b.1 = .lt)
    (hmem : ∀ entry, entry ∈ cells ↔ entry ∈ cells') : cells = cells' := by
  have hne : ∀ {a b : Coord × Cell}, compare a.1 b.1 = .lt → a ≠ b := by
    intro a b hab heq
    rw [heq] at hab
    simp at hab
  refine List.Perm.eq_of_pairwise (fun a b _ _ hab hba => ?_) h h' ?_
  · exact absurd hba (Std.OrientedCmp.not_lt_of_lt hab)
  · exact (List.perm_ext_iff_of_nodup (h.imp hne) (h'.imp hne)).2 hmem

theorem get?_empty (place : Coord) : ({} : Grid).get? place = none :=
  Std.ExtTreeMap.getElem?_empty

theorem cells_eq_empty_iff {g : Grid} : g.cells = ∅ ↔ ∀ place, g.get? place = none := by
  constructor
  · intro h place
    rw [get?, h]
    exact Std.ExtTreeMap.getElem?_empty
  · intro h
    refine Std.ExtTreeMap.ext_getElem? fun {place} => ?_
    rw [Std.ExtTreeMap.getElem?_empty]
    exact h place

theorem ext_get? {g g' : Grid} (hrow : g.maxRow = g'.maxRow) (hcol : g.maxCol = g'.maxCol)
    (h : ∀ place, g.get? place = g'.get? place) : g = g' := by
  obtain ⟨cells, maxRow, maxCol⟩ := g
  obtain ⟨cells', maxRow', maxCol'⟩ := g'
  obtain rfl : maxRow = maxRow' := hrow
  obtain rfl : maxCol = maxCol' := hcol
  obtain rfl : cells = cells' := Std.ExtTreeMap.ext_getElem? h
  rfl

theorem get?_set (g : Grid) (place p : Coord) (cell : Cell) :
    (g.set place cell).get? p = if p = place then some cell else g.get? p := by
  simp [set, get?, Std.ExtTreeMap.getElem?_insert, eq_comm (a := place)]

/-- A grid that is filled with a list of cells holds cells of the list and those it had before. -/
theorem mem_or_of_get?_foldl_set {cells : List (Coord × Cell)} {g : Grid} {p : Coord} {cell : Cell}
    (h : (cells.foldl (fun g (place, cell) => g.set place cell) g).get? p = some cell) :
    (p, cell) ∈ cells ∨ g.get? p = some cell := by
  induction cells generalizing g with
  | nil => exact .inr h
  | cons entry cells ih =>
    rcases ih h with hmem | hget
    · exact .inl (List.mem_cons_of_mem _ hmem)
    · rw [get?_set] at hget
      split at hget
      · next hp =>
        obtain rfl := Option.some.inj hget
        rw [hp]
        exact .inl (List.mem_cons_self ..)
      · exact .inr hget

theorem get?_mapCells (g : Grid) (f : Cell → Cell) (place : Coord) :
    (g.mapCells f).get? place = (g.get? place).map f := by
  simp [mapCells, get?, Std.ExtTreeMap.getElem?_map]

theorem toList_mapCells (g : Grid) (f : Cell → Cell) :
    (g.mapCells f).toList = g.toList.map fun (place, cell) => (place, f cell) :=
  Std.ExtTreeMap.toList_map

theorem get?_erase (g : Grid) (place p : Coord) :
    (g.erase place).get? p = if p = place then none else g.get? p := by
  have herase : (g.cells.erase place)[p]? = if p = place then none else g.get? p := by
    simp [get?, Std.ExtTreeMap.getElem?_erase, eq_comm (a := place)]
  unfold erase
  dsimp only
  split
  · exact herase
  · exact herase

/-! ## Moved cells -/

/-- The stored cells with the places that a move gives them. -/
def moved (g : Grid) (f : Coord → Option Coord) : List (Coord × Cell) :=
  g.toList.filterMap fun (place, cell) => (f place).map fun target => (target, cell)

theorem mem_moved {g : Grid} {f : Coord → Option Coord} {target : Coord} {cell : Cell} :
    (target, cell) ∈ g.moved f ↔ ∃ place, g.get? place = some cell ∧ f place = some target := by
  simp only [moved, List.mem_filterMap, Option.map_eq_some_iff, Prod.exists, Prod.mk.injEq]
  constructor
  · rintro ⟨place, cell', hmem, target', htarget, rfl, rfl⟩
    exact ⟨place, mem_toList.1 hmem, htarget⟩
  · rintro ⟨place, hget, htarget⟩
    exact ⟨place, cell, mem_toList.2 hget, target, htarget, rfl, rfl⟩

theorem cells_rekey (g : Grid) (f : Coord → Option Coord) :
    (g.rekey f).cells = Std.ExtTreeMap.ofList (g.moved f) :=
  Std.ExtTreeMap.ofList_eq_foldl.symm

/-- A move that takes no two places to the same one. -/
def Separates (f : Coord → Option Coord) : Prop :=
  ∀ a b target, f a = some target → f b = some target → a = b

/-- A move that keeps the reading order of the places that it keeps. -/
def KeepsOrder (f : Coord → Option Coord) : Prop :=
  ∀ a b a' b', f a = some a' → f b = some b' → compare a b = .lt → compare a' b' = .lt

theorem KeepsOrder.separates {f : Coord → Option Coord} (h : KeepsOrder f) : Separates f := by
  intro a b target ha hb
  have hirrefl : ¬ compare target target = .lt := by simp
  cases hab : compare a b with
  | lt => exact absurd (h a b target target ha hb hab) hirrefl
  | eq => exact Std.LawfulEqOrd.eq_of_compare hab
  | gt => exact absurd (h b a target target hb ha (Std.OrientedCmp.gt_iff_lt.1 hab)) hirrefl

theorem distinct_moved {g : Grid} {f : Coord → Option Coord} (h : Separates f) :
    (g.moved f).Pairwise fun a b => ¬ compare a.1 b.1 = .eq := by
  refine List.Pairwise.filterMap _ (fun a b hab a' ha b' hb => ?_) g.sorted_toList
  simp only [Option.map_eq_some_iff] at ha hb
  obtain ⟨ta, hta, rfl⟩ := ha
  obtain ⟨tb, htb, rfl⟩ := hb
  intro heq
  obtain rfl : ta = tb := Coord.compare_eq_eq.1 heq
  rw [h a.1 b.1 ta hta htb] at hab
  simp at hab

/-- The cell at a place after a move came from the place that moved there. -/
theorem get?_rekey {g : Grid} {f : Coord → Option Coord} (h : Separates f) {target : Coord}
    {cell : Cell} : (g.rekey f).get? target = some cell ↔
      ∃ place, g.get? place = some cell ∧ f place = some target := by
  rw [← mem_moved, get?, cells_rekey, getElem?_ofList_eq_some_iff (distinct_moved h)]

/-- A cell stays stored where its place moves to. -/
theorem get?_rekey_of_eq_some {g : Grid} {f : Coord → Option Coord} (h : Separates f)
    {place target : Coord} (hf : f place = some target) :
    (g.rekey f).get? target = g.get? place := by
  ext cell
  rw [get?_rekey h]
  constructor
  · rintro ⟨place', hget, hf'⟩
    rwa [h place place' target hf hf']
  · intro hget
    exact ⟨place, hget, hf⟩

/-- Nothing is stored where no place moves to. -/
theorem get?_rekey_of_forall_ne {g : Grid} {f : Coord → Option Coord} (h : Separates f)
    {target : Coord} (hf : ∀ place, f place ≠ some target) : (g.rekey f).get? target = none := by
  cases hget : (g.rekey f).get? target with
  | none => rfl
  | some cell =>
    obtain ⟨place, -, hplace⟩ := (get?_rekey h).1 hget
    exact absurd hplace (hf place)

/-- A move that keeps the reading order keeps the order of the stored cells. -/
theorem toList_rekey {g : Grid} {f : Coord → Option Coord} (h : KeepsOrder f) :
    (g.rekey f).toList = g.moved f := by
  have hsorted : (g.moved f).Pairwise fun a b => compare a.1 b.1 = .lt := by
    refine List.Pairwise.filterMap _ (fun a b hab a' ha b' hb => ?_) g.sorted_toList
    simp only [Option.map_eq_some_iff] at ha hb
    obtain ⟨ta, hta, rfl⟩ := ha
    obtain ⟨tb, htb, rfl⟩ := hb
    exact h a.1 b.1 ta tb hta htb hab
  refine eq_of_sorted (g.rekey f).sorted_toList hsorted ?_
  rintro ⟨target, cell⟩
  rw [mem_toList, get?_rekey h.separates, mem_moved]

end Grid

end SheetPress
