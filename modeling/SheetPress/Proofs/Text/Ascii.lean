import Mathlib
import SheetPress.Coord.Basic
import SheetPress.Formula.Reference

/-!
# Character classes on ASCII

The classes of characters that range over the whole of Unicode agree on ASCII with the usual letters
and digits.  Numbers are written in ASCII digits and read back from them (`readNat?_toDigits`,
`readNumber?_toDigits`).
-/

namespace SheetPress

/-- What holds of the characters of a text is decided on the text.  Deciding the quantifier itself
may go through all characters that there are. -/
theorem forall_mem_of_all {p : Char → Prop} [DecidablePred p] {text : List Char}
    (h : text.all (fun c => decide (p c)) = true) : ∀ c ∈ text, p c := fun c hc =>
  of_decide_eq_true (List.all_eq_true.1 h c hc)

/-! ## Letters and digits -/

theorem isAsciiDigit_iff {c : Char} : isAsciiDigit c = true ↔ 48 ≤ c.toNat ∧ c.toNat ≤ 57 := by
  simp [isAsciiDigit, Char.isDigit, UInt32.le_iff_toNat_le]

theorem isUpper_iff {c : Char} : c.isUpper = true ↔ 65 ≤ c.toNat ∧ c.toNat ≤ 90 := by
  simp [Char.isUpper, UInt32.le_iff_toNat_le]

theorem isLower_iff {c : Char} : c.isLower = true ↔ 97 ≤ c.toNat ∧ c.toNat ≤ 122 := by
  simp [Char.isLower, UInt32.le_iff_toNat_le]

theorem isAsciiLetter_iff {c : Char} :
    isAsciiLetter c = true ↔ c.isUpper = true ∨ c.isLower = true := by
  simp [isAsciiLetter, Char.isAlpha]

theorem isLower_eq_false_of_isUpper {c : Char} (h : c.isUpper = true) : c.isLower = false := by
  rw [isUpper_iff] at h
  rw [← Bool.not_eq_true, isLower_iff]
  omega

theorem isAsciiDigit_eq_false_of_letter {c : Char} (h : isAsciiLetter c = true) :
    isAsciiDigit c = false := by
  rw [isAsciiLetter_iff, isUpper_iff, isLower_iff] at h
  rw [← Bool.not_eq_true, isAsciiDigit_iff]
  omega

theorem toUpper_of_isLower_eq_false {c : Char} (h : c.isLower = false) : c.toUpper = c := by
  have hlower : ¬ (c.isLower = true) := by simp [h]
  rw [isLower_iff] at hlower
  unfold Char.toUpper
  rw [dif_neg]
  simpa [UInt32.le_iff_toNat_le] using hlower

theorem map_toUpper_of_isLower_eq_false {letters : List Char}
    (h : ∀ c ∈ letters, c.isLower = false) : letters.map Char.toUpper = letters := by
  rw [List.map_congr_left fun c hc => toUpper_of_isLower_eq_false (h c hc)]
  exact List.map_id letters

theorem toLower_of_isUpper_eq_false {c : Char} (h : c.isUpper = false) : c.toLower = c := by
  have hupper : ¬ (c.isUpper = true) := by simp [h]
  rw [isUpper_iff] at hupper
  unfold Char.toLower
  rw [dif_neg]
  simpa [UInt32.le_iff_toNat_le] using hupper

theorem isUpper_eq_false_of_isAsciiDigit {c : Char} (h : isAsciiDigit c = true) :
    c.isUpper = false := by
  rw [isAsciiDigit_iff] at h
  rw [← Bool.not_eq_true, isUpper_iff]
  omega

theorem toNat_toUpper_of_isLower {c : Char} (h : c.isLower = true) :
    c.toUpper.toNat = c.toNat - 32 := by
  have hcode := isLower_iff.1 h
  have hlower : 'a'.val ≤ c.val ∧ c.val ≤ 'z'.val := by
    simpa [UInt32.le_iff_toNat_le] using hcode
  unfold Char.toUpper
  rw [dif_pos hlower]
  show (c.val + ('A'.val - 'a'.val)).toNat = c.toNat - 32
  have hval : c.val.toNat = c.toNat := rfl
  have hshift : ('A'.val - 'a'.val).toNat = 4294967264 := by decide
  rw [UInt32.toNat_add, hshift, hval]
  omega

theorem isUpper_toUpper {c : Char} (h : isAsciiLetter c = true) : c.toUpper.isUpper = true := by
  cases hlower : c.isLower with
  | false =>
    rw [toUpper_of_isLower_eq_false hlower]
    rw [isAsciiLetter_iff, hlower] at h
    simpa using h
  | true =>
    rw [isUpper_iff, toNat_toUpper_of_isLower hlower]
    rw [isLower_iff] at hlower
    omega

/-! ## The classes of Unicode -/

theorem isLetter_of_isAsciiLetter {c : Char} (h : isAsciiLetter c = true) : isLetter c = true := by
  rw [isAsciiLetter_iff, isUpper_iff, isLower_iff] at h
  unfold isLetter alphabeticRanges
  rw [CodeRanges.contains, CodeRanges.contains]
  split_ifs <;> first | rfl | omega

theorem isAlphanumeric_of_isAsciiDigit {c : Char} (h : isAsciiDigit c = true) :
    isAlphanumeric c = true := by
  rw [isAsciiDigit_iff] at h
  have : numericRanges.contains c.toNat = true := by
    unfold numericRanges
    rw [CodeRanges.contains]
    split_ifs <;> first | rfl | omega
  simp [isAlphanumeric, this]

theorem isDecimalDigit_of_isAsciiDigit {c : Char} (h : isAsciiDigit c = true) :
    isDecimalDigit c = true := by
  rw [isAsciiDigit_iff] at h
  unfold isDecimalDigit decimalDigitRanges
  rw [CodeRanges.contains]
  split_ifs <;> first | rfl | omega

theorem joinsWord_of_isAsciiLetter {c : Char} (h : isAsciiLetter c = true) :
    joinsWord c = true := by
  simp [joinsWord, isAlphanumeric, isLetter_of_isAsciiLetter h]

theorem joinsWord_of_isAsciiDigit {c : Char} (h : isAsciiDigit c = true) : joinsWord c = true := by
  simp [joinsWord, isAlphanumeric_of_isAsciiDigit h]

theorem isAsciiDigit_of_isDecimalDigit {c : Char} (h : isDecimalDigit c = true)
    (hcode : c.toNat < 128) : isAsciiDigit c = true := by
  rw [isAsciiDigit_iff]
  unfold isDecimalDigit decimalDigitRanges at h
  rw [CodeRanges.contains, CodeRanges.contains] at h
  split_ifs at h <;> omega

theorem isUpper_eq_false_of_isDecimalDigit {c : Char} (h : isDecimalDigit c = true) :
    c.isUpper = false := by
  rw [← Bool.not_eq_true, isUpper_iff]
  intro hupper
  have := isAsciiDigit_iff.1 (isAsciiDigit_of_isDecimalDigit h (by omega))
  omega

namespace CodeRanges

theorem exists_of_contains {ranges : CodeRanges} {code : Nat} (h : ranges.contains code = true) :
    ∃ range ∈ ranges, range.1 ≤ code ∧ code ≤ range.2 := by
  induction ranges with
  | nil => cases h
  | cons range ranges ih =>
    rw [contains] at h
    split_ifs at h with hfirst hlast
    · exact ⟨range, List.mem_cons_self .., by omega, hlast⟩
    · obtain ⟨range', hmem, hin⟩ := ih h
      exact ⟨range', List.mem_cons_of_mem _ hmem, hin⟩

theorem contains_of_mem {ranges : CodeRanges} {code : Nat} {range : Nat × Nat}
    (hsorted : ranges.Pairwise fun a b => a.1 ≤ b.1) (hmem : range ∈ ranges)
    (hfirst : range.1 ≤ code) (hlast : code ≤ range.2) : ranges.contains code = true := by
  induction ranges with
  | nil => cases hmem
  | cons front ranges ih =>
    rw [List.pairwise_cons] at hsorted
    rw [contains]
    rcases List.mem_cons.1 hmem with rfl | hmem
    · rw [if_neg (by omega), if_pos hlast]
    · have := hsorted.1 range hmem
      rw [if_neg (by omega), ih hsorted.2 hmem, ite_self]

end CodeRanges

/-- There are few blanks, so what holds of all of them is found by looking at each. -/
@[elab_as_elim]
theorem of_isBlank_of_forall {p : Char → Prop} {c : Char} (hc : isBlank c = true)
    (h : ∀ range ∈ whiteSpaceRanges, ∀ code ∈ List.range' range.1 (range.2 + 1 - range.1),
      p (Char.ofNat code)) : p c := by
  obtain ⟨range, hrange, hfirst, hlast⟩ := CodeRanges.exists_of_contains hc
  have hcode := h range hrange c.toNat (List.mem_range'_1.2 ⟨hfirst, by omega⟩)
  rwa [Char.ofNat_toNat] at hcode

/-- Decimal digits are numerals. -/
theorem joinsWord_of_isDecimalDigit {c : Char} (h : isDecimalDigit c = true) :
    joinsWord c = true := by
  have hnested : ∀ digits ∈ decimalDigitRanges, ∃ numerals ∈ numericRanges,
      numerals.1 ≤ digits.1 ∧ digits.2 ≤ numerals.2 := by decide +kernel
  have hsorted : numericRanges.Pairwise fun a b => a.1 ≤ b.1 := by decide +kernel
  obtain ⟨digits, hmem, hfirst, hlast⟩ := CodeRanges.exists_of_contains h
  obtain ⟨numerals, hmem, hfirst', hlast'⟩ := hnested digits hmem
  have hnumeric := CodeRanges.contains_of_mem hsorted hmem (hfirst'.trans hfirst)
    (hlast.trans hlast')
  simp [joinsWord, isAlphanumeric, hnumeric]

/-! ## Natural numbers -/

theorem isAsciiDigit_of_mem_toDigits {c : Char} {n : Nat} (h : c ∈ Nat.toDigits 10 n) :
    isAsciiDigit c = true :=
  Nat.isDigit_of_mem_toDigits (by decide) (by decide) h

theorem digitsValue_toDigits (n : Nat) : digitsValue (Nat.toDigits 10 n) = n := by
  unfold digitsValue
  rw [← Nat.ofDigitChars_eq_foldl]
  exact Nat.ofDigitChars_ten_toDigits

/-- Digits are read without a sign. -/
theorem readNat?_digits {limit : Nat} {digits : List Char} (hne : digits ≠ [])
    (hdigits : digits.all isAsciiDigit = true) :
    readNat? limit digits =
      if digitsValue digits < limit then some (digitsValue digits) else none := by
  unfold readNat?
  split
  · rename_i rest
    exact absurd hdigits (by simp [show isAsciiDigit '+' = false by decide])
  · simp [hne, hdigits]

/-- A number that was written is read back. -/
theorem readNat?_toDigits {limit n : Nat} (h : n < limit) :
    readNat? limit (Nat.toDigits 10 n) = some n := by
  rw [readNat?_digits Nat.toDigits_ne_nil
    (List.all_eq_true.2 fun c hc => isAsciiDigit_of_mem_toDigits hc), digitsValue_toDigits, if_pos h]

theorem readDecimal?_digits {digits : List Char} (hne : digits ≠ [])
    (hdigits : ∀ c ∈ digits, isAsciiDigit c = true) :
    readDecimal? digits = some ⟨digitsValue digits, 0⟩ := by
  have htake : digits.takeWhile isAsciiDigit = digits := List.takeWhile_eq_self_iff.2 hdigits
  have hdrop : digits.dropWhile isAsciiDigit = [] := List.dropWhile_eq_nil_iff.2 hdigits
  unfold readDecimal?
  dsimp only
  rw [htake, hdrop]
  simp [hne, readExponent?]

/-- Digits are read as the float nearest to their value. -/
theorem readNumber?_digits {digits : List Char} (hne : digits ≠ [])
    (hdigits : ∀ c ∈ digits, isAsciiDigit c = true) :
    readNumber? digits = some (Decimal.toFloat ⟨digitsValue digits, 0⟩) := by
  obtain ⟨d, more, rfl⟩ := List.exists_cons_of_ne_nil hne
  have hd := hdigits d (List.mem_cons_self ..)
  have hname : ∀ c ∈ (d :: more).map Char.toLower, isAsciiDigit c = true := by
    intro c hc
    obtain ⟨c', hc', rfl⟩ := List.mem_map.1 hc
    rw [toLower_of_isUpper_eq_false (isUpper_eq_false_of_isAsciiDigit (hdigits c' hc'))]
    exact hdigits c' hc'
  -- the names of infinity and of what is no number begin with a letter
  have hword : ∀ c word, isAsciiDigit c = false → (d :: more).map Char.toLower ≠ c :: word := by
    intro c word hc heq
    have := hname c (heq ▸ List.mem_cons_self ..)
    simp [hc] at this
  have hmagnitude : readMagnitude? (d :: more) = (readDecimal? (d :: more)).map Decimal.toFloat := by
    unfold readMagnitude?
    dsimp only
    rw [if_neg (not_or.2 ⟨hword _ _ (by decide), hword _ _ (by decide)⟩),
      if_neg (hword _ _ (by decide))]
  rw [readDecimal?_digits hne hdigits] at hmagnitude
  unfold readNumber?
  split
  · next heq =>
    obtain ⟨rfl, -⟩ := List.cons.inj heq
    exact absurd hd (by decide)
  · next heq =>
    obtain ⟨rfl, -⟩ := List.cons.inj heq
    exact absurd hd (by decide)
  · exact hmagnitude

/-- A number that was written is also read back as a float. -/
theorem readNumber?_toDigits (n : Nat) :
    readNumber? (Nat.toDigits 10 n) = some (Decimal.toFloat ⟨n, 0⟩) := by
  rw [readNumber?_digits Nat.toDigits_ne_nil fun _ hc => isAsciiDigit_of_mem_toDigits hc,
    digitsValue_toDigits]

end SheetPress
