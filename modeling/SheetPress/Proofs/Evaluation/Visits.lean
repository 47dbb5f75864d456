import Mathlib
import SheetPress.Evaluation.Scope
import SheetPress.Proofs.Sheet.Grid

/-!
# References to cells that move

What references visit when the lines of a sheet move.  A rectangle is visited line by line, so its
stored cells are still found in the same order when the lines move without changing their order
(`flatMap_eq_of_follows`); whole columns and rows are read off the list of stored cells.
-/

namespace SheetPress

/-! ## Lines between two others -/

theorem mem_between {low high n : Nat} : n ∈ between low high ↔ low ≤ n ∧ n ≤ high := by
  simp only [between, List.mem_range'_1]
  omega

theorem sorted_between (low high : Nat) : (between low high).Pairwise (· < ·) :=
  List.pairwise_lt_range' ..

theorem length_between (low high : Nat) : (between low high).length = high + 1 - low :=
  List.length_range'

/-! ## Lines that move -/

/-- A move of lines that keeps their order. -/
def KeepsLines (m : Nat → Option Nat) : Prop :=
  ∀ a b a' b', m a = some a' → m b = some b' → a < b → a' < b'

theorem keepsLines_some : KeepsLines some := fun _ _ _ _ ha hb hab =>
  Option.some.inj ha ▸ Option.some.inj hb ▸ hab

/-- What is found line by line is found in the same order behind a move of the lines: nothing was on
the lines that go, and nothing is on the lines that are new. -/
theorem flatMap_eq_of_follows {α : Type} {m : Nat → Option Nat} (hm : KeepsLines m)
    {lines lines' : List Nat} (hsorted : lines.Pairwise (· < ·)) (hsorted' : lines'.Pairwise (· < ·))
    (hlines : ∀ x x', m x = some x' → (x' ∈ lines' ↔ x ∈ lines)) {found found' : Nat → List α}
    (hfound : ∀ x x', m x = some x' → found' x' = found x)
    (hgone : ∀ x ∈ lines, m x = none → found x = [])
    (hnew : ∀ x' ∈ lines', (∀ x, m x ≠ some x') → found' x' = []) :
    lines'.flatMap found' = lines.flatMap found := by
  classical
  have hold : lines.flatMap found = (lines.filterMap m).flatMap found' := by
    clear hsorted hlines
    induction lines with
    | nil => rfl
    | cons x lines ih =>
      rw [List.flatMap_cons, ih fun y hy => hgone y (List.mem_cons_of_mem _ hy)]
      cases hx : m x with
      | none => rw [hgone x (List.mem_cons_self ..) hx, List.filterMap_cons_none hx, List.nil_append]
      | some x' => rw [List.filterMap_cons_some hx, List.flatMap_cons, hfound x x' hx]
  have hkept : lines'.flatMap found' =
      (lines'.filter fun x' => ∃ x, m x = some x').flatMap found' := by
    clear hsorted' hlines
    induction lines' with
    | nil => rfl
    | cons x' lines' ih =>
      rw [List.flatMap_cons, ih fun y hy => hnew y (List.mem_cons_of_mem _ hy)]
      by_cases hx : ∃ x, m x = some x'
      · rw [List.filter_cons_of_pos (by simpa using hx), List.flatMap_cons]
      · rw [List.filter_cons_of_neg (by simpa using hx),
          hnew x' (List.mem_cons_self ..) (by simpa using hx), List.nil_append]
  have hmoved : (lines.filterMap m).Pairwise (· < ·) :=
    List.Pairwise.filterMap m (fun a b hab a' ha b' hb => hm a b a' b' ha hb hab) hsorted
  rw [hold, hkept]
  congr 1
  -- both lists are increasing and have the same lines
  refine List.Perm.eq_of_pairwise (fun a b _ _ hab hba => ?_) (hsorted'.filter _) hmoved ?_
  · exact absurd hab hba.asymm
  rw [List.perm_ext_iff_of_nodup ((hsorted'.filter _).imp Nat.ne_of_lt) (hmoved.imp Nat.ne_of_lt)]
  intro x'
  simp only [List.mem_filter, List.mem_filterMap, decide_eq_true_eq]
  constructor
  · rintro ⟨hx', x, hx⟩
    exact ⟨x, (hlines x x' hx).1 hx', hx⟩
  · rintro ⟨x, hmem, hx⟩
    exact ⟨(hlines x x' hx).2 hmem, x, hx⟩

/-! ## Rectangles -/

namespace Grid

/-- The stored cells of a rectangle, line by line. -/
theorem filterMap_inRectangle (g : Grid) (a b : Coord) :
    (g.inRectangle a b).filterMap id =
      (between (min a.row b.row) (max a.row b.row)).flatMap fun row =>
        (between (min a.col b.col) (max a.col b.col)).flatMap fun col =>
          (g.get? ⟨row, col⟩).toList := by
  unfold inRectangle
  rw [List.filterMap_flatMap]
  congr 1
  funext row
  rw [List.filterMap_map]
  generalize between (min a.col b.col) (max a.col b.col) = cols
  induction cols with
  | nil => rfl
  | cons col cols ih =>
    rw [List.flatMap_cons, ← ih]
    cases hget : g.get? ⟨row, col⟩ <;> simp [hget]

theorem length_inRectangle (g : Grid) (a b : Coord) :
    (g.inRectangle a b).length =
      (max a.row b.row + 1 - min a.row b.row) * (max a.col b.col + 1 - min a.col b.col) := by
  unfold inRectangle
  rw [List.length_flatMap]
  simp [length_between]

theorem exists_get?_of_mem_inRectangle {g : Grid} {a b : Coord} {cell : Cell}
    (h : cell ∈ (g.inRectangle a b).filterMap id) : ∃ place, g.get? place = some cell := by
  simp only [List.mem_filterMap, id_eq, exists_eq_right, inRectangle, List.mem_flatMap,
    List.mem_map] at h
  obtain ⟨row, -, col, -, hget⟩ := h
  exact ⟨_, hget⟩

theorem exists_get?_of_mem_inColumns {g : Grid} {a b : Nat} {cell : Cell}
    (h : cell ∈ g.inColumns a b) : ∃ place, g.get? place = some cell := by
  simp only [inColumns, List.mem_map, List.mem_mergeSort, List.mem_filter, Prod.exists] at h
  obtain ⟨place, cell', ⟨hmem, -⟩, rfl⟩ := h
  exact ⟨place, mem_toList.1 hmem⟩

end Grid

end SheetPress
