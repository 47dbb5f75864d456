import Mathlib
import SheetPress.Proofs.Text.Ascii

/-!
# Letters of columns

The letters of a column are capitals, and they are read back as that column.

* `isUpper_of_mem_columnLetters` — columns are written in capitals.
* `columnIndex_columnLetters` — the index of a column is found from its letters.
* `columnLetters_columnIndex` — capitals are the letters of the column that they name.
* `parseColumn?_columnLetters` — the columns of a sheet are read back from their letters.
-/

namespace SheetPress

theorem toNat_letterOf {n : Nat} (h : n < 26) : (letterOf n).toNat = 65 + n := by
  have hcode : 'A'.toNat + n = 65 + n := rfl
  rw [letterOf, hcode, Char.toNat_ofNat, if_pos]
  unfold Nat.isValidChar
  omega

theorem isUpper_letterOf {n : Nat} (h : n < 26) : (letterOf n).isUpper = true := by
  rw [isUpper_iff, toNat_letterOf h]
  omega

theorem columnLetters_ne_nil (n : Nat) : columnLetters n ≠ [] := by
  rw [columnLetters]
  split <;> simp

/-- Columns are written in capitals. -/
theorem isUpper_of_mem_columnLetters {n : Nat} : ∀ c ∈ columnLetters n, c.isUpper = true := by
  fun_induction columnLetters n with
  | case1 n h =>
    intro c hc
    obtain rfl := List.mem_singleton.1 hc
    exact isUpper_letterOf h
  | case2 n h ih =>
    intro c hc
    rcases List.mem_append.1 hc with hc | hc
    · exact ih c hc
    · obtain rfl := List.mem_singleton.1 hc
      exact isUpper_letterOf (Nat.mod_lt n (by decide))

theorem lettersValue_append_singleton (letters : List Char) (c : Char) :
    lettersValue (letters ++ [c]) = lettersValue letters * 26 + (c.toUpper.toNat - 64) :=
  List.foldl_append ..

theorem digit_letterOf {n : Nat} (h : n < 26) : (letterOf n).toUpper.toNat - 64 = n + 1 := by
  rw [toUpper_of_isLower_eq_false (isLower_eq_false_of_isUpper (isUpper_letterOf h)),
    toNat_letterOf h]
  omega

theorem lettersValue_columnLetters (n : Nat) : lettersValue (columnLetters n) = n + 1 := by
  fun_induction columnLetters n with
  | case1 n h => simp [lettersValue, digit_letterOf h]
  | case2 n h ih =>
    rw [lettersValue_append_singleton, ih, digit_letterOf (Nat.mod_lt n (by decide))]
    omega

/-- The index of a column is found from its letters. -/
theorem columnIndex_columnLetters (n : Nat) : columnIndex (columnLetters n) = n := by
  rw [columnIndex, lettersValue_columnLetters, Nat.add_sub_cancel]

theorem letterOf_sub {c : Char} (h : c.isUpper = true) : letterOf (c.toNat - 65) = c := by
  have hcode := isUpper_iff.1 h
  have hsum : 'A'.toNat + (c.toNat - 65) = c.toNat := by
    rw [show 'A'.toNat = 65 from rfl]
    omega
  rw [letterOf, hsum, Char.ofNat_toNat]

theorem lettersValue_pos {letters : List Char} (hne : letters ≠ [])
    (hupper : ∀ c ∈ letters, c.isUpper = true) : 0 < lettersValue letters := by
  obtain ⟨front, c, rfl⟩ := (List.eq_nil_or_concat' letters).resolve_left hne
  have hc : c.isUpper = true := hupper c (by simp)
  have hcode := isUpper_iff.1 hc
  rw [lettersValue_append_singleton, toUpper_of_isLower_eq_false (isLower_eq_false_of_isUpper hc)]
  omega

/-- Capitals are the letters of the column that they name. -/
theorem columnLetters_columnIndex {letters : List Char} (hne : letters ≠ [])
    (hupper : ∀ c ∈ letters, c.isUpper = true) : columnLetters (columnIndex letters) = letters := by
  induction letters using List.reverseRecOn with
  | nil => exact absurd rfl hne
  | append_singleton front c ih =>
    have hc : c.isUpper = true := hupper c (by simp)
    have hcode := isUpper_iff.1 hc
    have hfront : ∀ d ∈ front, d.isUpper = true := fun d hd => hupper d (by simp [hd])
    rw [columnIndex, lettersValue_append_singleton,
      toUpper_of_isLower_eq_false (isLower_eq_false_of_isUpper hc), columnLetters]
    by_cases hnil : front = []
    · subst hnil
      have hindex : lettersValue [] * 26 + (c.toNat - 64) - 1 = c.toNat - 65 := by
        rw [show lettersValue [] = 0 from rfl]
        omega
      rw [hindex, if_pos (by omega), letterOf_sub hc, List.nil_append]
    · -- the last letter is a digit from 1 to 26, so nothing is carried from it
      have hpos := lettersValue_pos hnil hfront
      have hdiv : (lettersValue front * 26 + (c.toNat - 64) - 1) / 26 - 1 = columnIndex front := by
        rw [columnIndex]
        omega
      have hmod : (lettersValue front * 26 + (c.toNat - 64) - 1) % 26 = c.toNat - 65 := by omega
      rw [if_neg (by omega), hdiv, hmod, ih hnil hfront, letterOf_sub hc]

theorem length_columnLetters_le {n : Nat} (h : n < maxColumns) : (columnLetters n).length ≤ 3 := by
  have hlimit : n < 16384 := h
  rw [columnLetters]
  split
  · simp
  · rw [columnLetters]
    split
    · simp
    · rw [columnLetters, if_pos (by omega)]
      simp

/-- The columns of a sheet are read back from their letters. -/
theorem parseColumn?_columnLetters {n : Nat} (h : n < maxColumns) :
    parseColumn? (columnLetters n) = some n := by
  have hletters : (columnLetters n).all isAsciiLetter = true := List.all_eq_true.2 fun c hc =>
    isAsciiLetter_iff.2 (Or.inl (isUpper_of_mem_columnLetters c hc))
  rw [parseColumn?, if_pos ⟨columnLetters_ne_nil n, length_columnLetters_le h, hletters⟩]
  dsimp only
  rw [columnIndex_columnLetters, if_pos h]

end SheetPress
