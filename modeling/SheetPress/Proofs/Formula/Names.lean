import Mathlib
import SheetPress.Formula.Parser
import SheetPress.Proofs.Formula.Editing

/-!
# Names that are references

A name is a reference by its spelling: letters for a column, digits for a row, each perhaps behind a
dollar sign.

* `cellRef_eq_ok_iff` — the names that the parser takes for cells are those that spell one.
* `columnRef?_eq_some_iff` — the same for whole columns.
-/

namespace SheetPress

/-- How a name spells a cell: letters in either case and digits, each perhaps behind a dollar sign.
The digits are a row from one on that fits an index. -/
inductive SpellsCell : String → CellRef → Prop
  | intro {columnFixed rowFixed : Bool} {letters digits : List Char} (hletters : letters ≠ [])
      (hletter : ∀ c ∈ letters, isAsciiLetter c = true) (hdigits : digits ≠ [])
      (hdigit : ∀ c ∈ digits, isAsciiDigit c = true) (hpos : 0 < digitsValue digits)
      (hlt : digitsValue digits < indexLimit) :
      SpellsCell
        (String.ofList (dollar columnFixed ++ (letters ++ (dollar rowFixed ++ digits))))
        ⟨String.ofList (letters.map Char.toUpper), digitsValue digits, columnFixed, rowFixed⟩

/-- How a name spells a whole column: letters in either case, perhaps behind a dollar sign. -/
inductive SpellsColumn : String → ColumnRef → Prop
  | intro {fixed : Bool} {letters : List Char} (hletters : letters ≠ [])
      (hletter : ∀ c ∈ letters, isAsciiLetter c = true) :
      SpellsColumn (String.ofList (dollar fixed ++ letters))
        ⟨String.ofList (letters.map Char.toUpper), fixed⟩

/-! ## Dollar signs in front of letters and digits -/

theorem ne_dollar_of_isAsciiLetter {c : Char} (h : isAsciiLetter c = true) : c ≠ '$' := by
  rintro rfl
  exact absurd h (by decide)

theorem ne_dollar_of_isAsciiDigit {c : Char} (h : isAsciiDigit c = true) : c ≠ '$' := by
  rintro rfl
  exact absurd h (by decide)

/-- A dollar sign in front of a run of other characters is split off. -/
theorem splitDollar_append_run (fixed : Bool) {run : List Char} (tail : List Char) (hne : run ≠ [])
    (hrun : ∀ c ∈ run, c ≠ '$') : splitDollar (dollar fixed ++ (run ++ tail)) = (fixed, run ++ tail) := by
  obtain ⟨d, run, rfl⟩ := List.exists_cons_of_ne_nil hne
  refine splitDollar_append fixed fun c hc => ?_
  obtain rfl : d = c := by simpa using hc
  exact hrun d (List.mem_cons_self ..)

/-- Letters end in front of digits, also where a dollar sign stands between. -/
theorem span_letters {letters digits : List Char} (rowFixed : Bool)
    (hletter : ∀ c ∈ letters, isAsciiLetter c = true) (hdigit : ∀ c ∈ digits, isAsciiDigit c = true) :
    (letters ++ (dollar rowFixed ++ digits)).takeWhile isAsciiLetter = letters ∧
      (letters ++ (dollar rowFixed ++ digits)).dropWhile isAsciiLetter = dollar rowFixed ++ digits := by
  refine takeWhile_append_of_head hletter fun c hc => ?_
  cases rowFixed with
  | true =>
    obtain rfl : '$' = c := by simpa [dollar] using hc
    decide
  | false =>
    have hc : c ∈ digits := List.mem_of_mem_head? hc
    rw [← Bool.not_eq_true]
    intro hletter
    have := isAsciiDigit_eq_false_of_letter hletter
    rw [hdigit c hc] at this
    cases this

/-! ## What the parser takes for a reference -/

/-- The parser takes a name for a cell exactly if the name spells it. -/
theorem cellRef_eq_ok_iff {name : String} {ref : CellRef} :
    cellRef name = .ok ref ↔ SpellsCell name ref := by
  constructor
  · intro h
    have hname := dollar_splitDollar name.toList
    unfold cellRef at h
    generalize splitDollar name.toList = front at h hname
    obtain ⟨columnFixed, text⟩ := front
    dsimp only at h hname
    have htext := dollar_splitDollar (text.dropWhile isAsciiLetter)
    generalize splitDollar (text.dropWhile isAsciiLetter) = back at h htext
    obtain ⟨rowFixed, digits⟩ := back
    dsimp only at h htext
    split at h
    · cases h
    · next hletters =>
      split at h
      · cases h
      · next hdigits =>
        split at h
        · cases h
        · next hall =>
          rw [Bool.not_eq_true, Bool.not_eq_false'] at hall
          rw [readNat?_digits hdigits hall] at h
          by_cases hlt : digitsValue digits < indexLimit
          · rw [if_pos hlt] at h
            split at h
            · next heq => cases heq
            · cases h
            · next row hzero hrow =>
              cases h
              obtain rfl := Option.some.inj hrow
              have hspelled := @SpellsCell.intro columnFixed rowFixed _ _ hletters
                (fun c hc => List.mem_takeWhile_imp hc) hdigits (List.all_eq_true.1 hall)
                (Nat.pos_of_ne_zero hzero) hlt
              rwa [htext, List.takeWhile_append_dropWhile, hname, String.ofList_toList] at hspelled
          · rw [if_neg hlt] at h
            cases h
  · intro h
    cases h with
    | @intro columnFixed rowFixed letters digits hletters hletter hdigits hdigit hpos hlt =>
      obtain ⟨htake, hdrop⟩ := span_letters rowFixed hletter hdigit
      have hrow := splitDollar_append_run rowFixed [] hdigits
        fun c hc => ne_dollar_of_isAsciiDigit (hdigit c hc)
      rw [List.append_nil] at hrow
      unfold cellRef
      rw [String.toList_ofList, splitDollar_append_run columnFixed _ hletters
        fun c hc => ne_dollar_of_isAsciiLetter (hletter c hc)]
      dsimp only
      rw [hdrop, hrow]
      dsimp only
      rw [htake, if_neg hletters, if_neg hdigits, List.all_eq_true.2 hdigit,
        readNat?_digits hdigits (List.all_eq_true.2 hdigit), if_pos hlt]
      obtain ⟨row, hrow⟩ := Nat.exists_eq_succ_of_ne_zero hpos.ne'
      rw [hrow]
      rfl

/-- The parser takes a name for a whole column exactly if the name spells it. -/
theorem columnRef?_eq_some_iff {name : String} {ref : ColumnRef} :
    columnRef? name = some ref ↔ SpellsColumn name ref := by
  constructor
  · intro h
    have hname := dollar_splitDollar name.toList
    unfold columnRef? at h
    generalize splitDollar name.toList = front at h hname
    obtain ⟨fixed, letters⟩ := front
    dsimp only at h hname
    split at h
    · next hall =>
      cases h
      have hspelled := @SpellsColumn.intro fixed _ hall.1 (List.all_eq_true.1 hall.2)
      rwa [hname, String.ofList_toList] at hspelled
    · cases h
  · intro h
    cases h with
    | @intro fixed letters hletters hletter =>
      have hsplit := splitDollar_append_run fixed [] hletters
        fun c hc => ne_dollar_of_isAsciiLetter (hletter c hc)
      rw [List.append_nil] at hsplit
      unfold columnRef?
      rw [String.toList_ofList, hsplit]
      dsimp only
      rw [if_pos ⟨hletters, List.all_eq_true.2 hletter⟩]

end SheetPress
