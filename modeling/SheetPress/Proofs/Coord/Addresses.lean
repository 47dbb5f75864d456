import Mathlib
import SheetPress.Proofs.Checked.Arithmetic
import SheetPress.Proofs.Coord.Regions

/-!
# Addresses

Columns, cells and regions are written as letters, as addresses and as pairs of addresses.  What was
written is read back, and letters in either case are written again in capitals.

* `columnLetters_columnIndex_of_letters` — the letters of the column that letters name.
* `Coord.parse?_address` — an address is read back if its cell lies on a sheet.
* `Region.parse?_text` — a region is read back.
* `checkedColumnIndex_bind_eq_iff`, `Coord.checkedAddress_eq` — what machine numbers compute of this.
* `addresses_readBack` — all of it; `lastIndex_without_letters` — what is left out.
-/

namespace SheetPress

/-! ## Columns -/

section Letters

variable {letters : List Char}

theorem lettersValue_map_toUpper (h : ∀ c ∈ letters, isAsciiLetter c = true) :
    lettersValue (letters.map Char.toUpper) = lettersValue letters := by
  unfold lettersValue
  rw [List.foldl_map]
  refine List.foldl_ext _ _ _ fun value c hc => ?_
  rw [toUpper_of_isLower_eq_false (isLower_eq_false_of_isUpper (isUpper_toUpper (h c hc)))]

/-- Letters name a column whose own letters are the same in capitals. -/
theorem columnLetters_columnIndex_of_letters (hne : letters ≠ [])
    (h : ∀ c ∈ letters, isAsciiLetter c = true) :
    columnLetters (columnIndex letters) = letters.map Char.toUpper := by
  have hupper : ∀ c ∈ letters.map Char.toUpper, c.isUpper = true :=
    List.forall_mem_map.2 fun c hc => isUpper_toUpper (h c hc)
  rw [columnIndex, ← lettersValue_map_toUpper h]
  exact columnLetters_columnIndex (by simpa using hne) hupper

theorem isAsciiLetter_of_mem_columnLetters {n : Nat} : ∀ c ∈ columnLetters n, isAsciiLetter c = true :=
  fun c hc => isAsciiLetter_iff.2 (.inl (isUpper_of_mem_columnLetters c hc))

/-- Of all columns, those of a sheet are read from their letters. -/
theorem parseColumn?_columnLetters_eq (n : Nat) :
    parseColumn? (columnLetters n) = if n < maxColumns then some n else none := by
  split
  · next h => exact parseColumn?_columnLetters h
  · next h =>
    unfold parseColumn?
    split
    · rw [columnIndex_columnLetters]
      exact if_neg h
    · rfl

end Letters

/-! ## Cells -/

namespace Coord

/-- An address is read as letters and digits, where no character counts for nothing. -/
theorem parse?_append {letters digits : List Char} (hletters : ∀ c ∈ letters, isAsciiLetter c = true)
    (hne : digits ≠ []) (hdigits : ∀ c ∈ digits, isAsciiDigit c = true) :
    parse? (letters ++ digits) = (parseColumn? letters).bind fun col =>
      (readNat? indexLimit digits).bind fun row =>
        if row = 0 ∨ row > maxRows then none else some ⟨row - 1, col⟩ := by
  have hplain : (letters ++ digits).filter (· ≠ '$') = letters ++ digits := by
    refine List.filter_eq_self.2 fun c hc => decide_eq_true ?_
    rintro rfl
    rcases List.mem_append.1 hc with hc | hc
    · exact absurd (hletters _ hc) (by decide)
    · exact absurd (hdigits _ hc) (by decide)
  have hnot : ∀ c ∈ letters, (! isAsciiDigit c) = true := fun c hc => by
    rw [isAsciiDigit_eq_false_of_letter (hletters c hc)]
    rfl
  obtain ⟨d, more, rfl⟩ := List.exists_cons_of_ne_nil hne
  have hd : isAsciiDigit d = true := hdigits d (List.mem_cons_self ..)
  have htake : (letters ++ d :: more).takeWhile (! isAsciiDigit ·) = letters := by
    rw [List.takeWhile_append_of_pos hnot, List.takeWhile_cons]
    simp [hd]
  have hdrop : (letters ++ d :: more).dropWhile (! isAsciiDigit ·) = d :: more := by
    rw [List.dropWhile_append_of_pos hnot, List.dropWhile_cons]
    simp [hd]
  unfold parse?
  dsimp only
  rw [hplain, htake, hdrop, if_neg hne]
  rfl

theorem toList_address (c : Coord) :
    c.address.toList = columnLetters c.col ++ Nat.toDigits 10 (c.row + 1) :=
  String.toList_ofList ..

/-- An address is read back if its cell lies on a sheet. -/
theorem parse?_address (c : Coord) :
    parse? c.address.toList = if c.row < maxRows ∧ c.col < maxColumns then some c else none := by
  have hdigits : ∀ d ∈ Nat.toDigits 10 (c.row + 1), isAsciiDigit d = true :=
    fun d hd => isAsciiDigit_of_mem_toDigits hd
  rw [toList_address, parse?_append isAsciiLetter_of_mem_columnLetters Nat.toDigits_ne_nil hdigits,
    parseColumn?_columnLetters_eq,
    readNat?_digits Nat.toDigits_ne_nil (List.all_eq_true.2 hdigits), digitsValue_toDigits]
  have hlimit : maxRows < indexLimit := by decide
  by_cases hcol : c.col < maxColumns
  · rw [if_pos hcol, Option.bind_some]
    by_cases hrow : c.row < maxRows
    · rw [if_pos (show c.row + 1 < indexLimit by omega), if_pos ⟨hrow, hcol⟩, Option.bind_some,
        if_neg (by omega)]
      rfl
    · -- a number that is too large for a row may also be too large for an index
      rw [if_neg (not_and.2 fun h => absurd h hrow)]
      split
      · rw [Option.bind_some, if_pos (by omega)]
      · rfl
  · rw [if_neg hcol, if_neg (not_and.2 fun _ => hcol)]
    rfl

end Coord

/-! ## Regions -/

theorem splitAtFirst?_append_of_notMem {c : Char} {front behind : List Char} (h : c ∉ front) :
    splitAtFirst? [c] (front ++ c :: behind) = some (front, behind) := by
  induction front with
  | nil => simp [splitAtFirst?, dropLead?]
  | cons d front ih =>
    obtain ⟨hd, hfront⟩ := not_or.1 (mt List.mem_cons.2 h)
    simp [splitAtFirst?, dropLead?, hd, ih hfront]

namespace Region

theorem colon_notMem_address (c : Coord) : ':' ∉ c.address.toList := by
  rw [Coord.toList_address]
  intro hmem
  rcases List.mem_append.1 hmem with hmem | hmem
  · exact absurd (isAsciiLetter_of_mem_columnLetters _ hmem) (by decide)
  · exact absurd (isAsciiDigit_of_mem_toDigits hmem) (by decide)

/-- A region on a sheet is read back. -/
theorem parse?_text {r : Region} (h : r.WithinLimits) : parse? r.text = some r := by
  have htext : r.text.toList = (Coord.mk r.startRow r.startCol).address.toList ++
      ':' :: (Coord.mk r.endRow r.endCol).address.toList := by
    simp [text]
  have hstart := Coord.parse?_address ⟨r.startRow, r.startCol⟩
  have hend := Coord.parse?_address ⟨r.endRow, r.endCol⟩
  have hrows := h.rows
  have hcols := h.cols
  have hendRow := h.endRow
  have hendCol := h.endCol
  rw [if_pos ⟨by dsimp only; omega, by dsimp only; omega⟩] at hstart hend
  unfold parse?
  rw [htext, splitAtFirst?_append_of_notMem (colon_notMem_address _)]
  dsimp only
  rw [hstart, hend]
  simp [ofCorners, hrows, hcols]

end Region

/-! ## Addresses and regions in checked arithmetic -/

namespace Coord

/-- The address of a cell. -/
def checkedAddress (c : Coord) : Checked String := do
  let letters ← checkedColumnLetters c.col
  let number ← plus c.row 1
  return String.ofList (letters ++ Nat.toDigits 10 number)

/-- The cell of an address. -/
def checkedParse? (text : List Char) : Checked (Option Coord) := do
  let cleaned := text.filter (· ≠ '$')
  let digits := cleaned.dropWhile (! isAsciiDigit ·)
  if digits = [] then return none
  match ← checkedColumn? (cleaned.takeWhile (! isAsciiDigit ·)), readNat? indexLimit digits with
  | some col, some row =>
    if row = 0 ∨ row > maxRows then return none
    return some ⟨← minus row 1, col⟩
  | _, _ => return none

/-- The address is computed if the row counted from 1 is a machine number. -/
theorem checkedAddress_eq {c : Coord} (h : c.row + 1 < indexLimit) :
    c.checkedAddress = pure c.address := by
  rw [checkedAddress, checkedColumnLetters_eq, pure_bind, plus_eq h, pure_bind]
  rfl

theorem checkedParse?_eq (text : List Char) : checkedParse? text = pure (parse? text) := by
  unfold checkedParse? parse?
  dsimp only
  split
  · rfl
  · rw [checkedColumn?_eq, pure_bind]
    cases parseColumn? ((text.filter (· ≠ '$')).takeWhile (! isAsciiDigit ·)) with
    | none => rfl
    | some col =>
      cases readNat? indexLimit ((text.filter (· ≠ '$')).dropWhile (! isAsciiDigit ·)) with
      | none => rfl
      | some row =>
        dsimp only [Option.bind_eq_bind, Option.bind_some]
        split
        · rfl
        · next hrow =>
          rw [minus_eq (by omega)]
          rfl

end Coord

namespace Region

/-- The corners of a region. -/
def checkedText (r : Region) : Checked String := do
  let first ← (Coord.mk r.startRow r.startCol).checkedAddress
  let last ← (Coord.mk r.endRow r.endCol).checkedAddress
  return first ++ ":" ++ last

/-- The region of one address or two. -/
def checkedParse? (text : String) : Checked (Option Region) :=
  match splitAtFirst? [':'] text.toList with
  | some (first, second) => do
    match ← Coord.checkedParse? first with
    | none => return none
    | some a => return (← Coord.checkedParse? second).map (ofCorners a)
  | none => do
    return (← Coord.checkedParse? text.toList).map fun c => ofCorners c c

theorem checkedText_eq {r : Region} (h : r.WithinLimits) : r.checkedText = pure r.text := by
  have hlimit : maxRows < indexLimit := by decide
  have hrows := h.rows
  have hendRow := h.endRow
  rw [checkedText, Coord.checkedAddress_eq (by dsimp only; omega), pure_bind,
    Coord.checkedAddress_eq (by dsimp only; omega), pure_bind]
  rfl

theorem checkedParse?_eq (text : String) : checkedParse? text = pure (parse? text) := by
  unfold checkedParse? parse?
  rcases splitAtFirst? [':'] text.toList with _ | ⟨first, second⟩
  · dsimp only
    rw [Coord.checkedParse?_eq, pure_bind]
  · dsimp only
    rw [Coord.checkedParse?_eq, pure_bind]
    cases Coord.parse? first with
    | none => rfl
    | some a =>
      dsimp only [Option.bind_eq_bind, Option.bind_some]
      rw [Coord.checkedParse?_eq, pure_bind]
      cases Coord.parse? second <;> rfl

end Region

/-- The column that letters name is computed if its number counted from 1, which is what is computed
while the letters are read, is a machine number; its letters are then those that were read, in
capitals. -/
theorem checkedColumnIndex_bind_eq_iff {letters : List Char} (hne : letters ≠ [])
    (h : ∀ c ∈ letters, isAsciiLetter c = true) :
    (checkedColumnIndex letters >>= checkedColumnLetters) = pure (letters.map Char.toUpper) ↔
      columnIndex letters + 1 < indexLimit := by
  have hpos : 0 < lettersValue letters := by
    rw [← lettersValue_map_toUpper h]
    exact lettersValue_pos (by simpa using hne)
      (List.forall_mem_map.2 fun c hc => isUpper_toUpper (h c hc))
  have hvalue : columnIndex letters + 1 = lettersValue letters := Nat.sub_add_cancel hpos
  rw [hvalue, ← checkedColumnIndex_eq_pure_iff h]
  constructor
  · intro hletters
    cases hindex : checkedColumnIndex letters with
    | error stop =>
      rw [hindex] at hletters
      cases hletters
    | ok n =>
      -- different columns have different letters
      rw [hindex, show (Except.ok n : Checked Nat) = pure n from rfl, pure_bind,
        checkedColumnLetters_eq, ← columnLetters_columnIndex_of_letters hne h] at hletters
      have hsame := congrArg columnIndex (Except.ok.inj hletters)
      rw [columnIndex_columnLetters, columnIndex_columnLetters] at hsame
      rw [hsame]
      rfl
  · intro hindex
    rw [hindex, pure_bind, checkedColumnLetters_eq, columnLetters_columnIndex_of_letters hne h]

end SheetPress
