import Mathlib
import SheetPress.Proofs.Formula.Names

/-!
# Corners as names

A corner of a reference is a name to the lexer, and the parser reads it as the cell that edits take
it for.

* `exists_corner_of_cellRef` — what the parser reads as a cell is a corner, in capitals.
* `CornerText.Proper.cellRef_eq` — a corner is read as its cell.
* `CornerText.Proper.lexes` — a corner is a token of its own.
-/

namespace SheetPress

/-! ## Names that are corners -/

/-- Corners and the names that the parser reads as cells are the same, but for lower case. -/
theorem exists_corner_of_cellRef {name : String} {ref : CellRef} (h : cellRef name = .ok ref)
    (hlower : ∀ c ∈ name.toList, c.isLower = false) :
    ∃ corner : CornerText, corner.Proper ∧ name.toList = corner.chars ∧
      corner.ref? = some ref ∧ ref.row ≠ 0 := by
  cases cellRef_eq_ok_iff.1 h with
  | @intro columnFixed rowFixed letters digits hletters hletter hdigits hdigit hpos hlt =>
    rw [String.toList_ofList] at hlower
    have hcapital : ∀ c ∈ letters, c.isLower = false := fun c hc =>
      hlower c (List.mem_append_right _ (List.mem_append_left _ hc))
    refine ⟨⟨columnFixed, letters, rowFixed, digits⟩, ⟨hletters, fun c hc => ?_, hdigits, hdigit⟩,
      ?_, ?_, hpos.ne'⟩
    · have := hletter c hc
      rw [isAsciiLetter_iff, hcapital c hc] at this
      simpa using this
    · rw [String.toList_ofList, CornerText.chars, List.append_assoc, List.append_assoc]
    · rw [CornerText.ref?, readNat?_digits hdigits (List.all_eq_true.2 hdigit), if_pos hlt,
        map_toUpper_of_isLower_eq_false hcapital]
      rfl

namespace CornerText.Proper

variable {corner : CornerText} {rest : List Char}

theorem cellRef_eq (h : corner.Proper) {ref : CellRef} (href : corner.ref? = some ref)
    (hrow : ref.row ≠ 0) : cellRef (String.ofList corner.chars) = .ok ref := by
  have hlower : ∀ c ∈ corner.letters, c.isLower = false := fun c hc =>
    isLower_eq_false_of_isUpper (h.isUpper c hc)
  rw [CornerText.ref?, readNat?_digits h.digits_ne_nil (List.all_eq_true.2 h.isAsciiDigit)] at href
  split at href
  · next hlt =>
    obtain rfl := Option.some.inj href
    have hspelled := @SpellsCell.intro corner.columnFixed corner.rowFixed _ _ h.letters_ne_nil
      (fun c hc => isAsciiLetter_iff.2 (Or.inl (h.isUpper c hc))) h.digits_ne_nil h.isAsciiDigit
      (Nat.pos_of_ne_zero hrow) hlt
    rw [map_toUpper_of_isLower_eq_false hlower] at hspelled
    rw [cellRef_eq_ok_iff, CornerText.chars, List.append_assoc, List.append_assoc]
    exact hspelled
  · cases href

/-- A corner is a name. -/
theorem isName (h : corner.Proper) (hrest : ∀ c ∈ rest.head?, continuesName c = false) :
    IsName corner.chars rest := by
  obtain ⟨l, letters, hcons⟩ := List.exists_cons_of_ne_nil h.letters_ne_nil
  have hl : startsName l = true := by
    have : SheetPress.isAsciiLetter l = true :=
      isAsciiLetter_iff.2 (Or.inl (h.isUpper l (hcons ▸ List.mem_cons_self ..)))
    simp [startsName, this]
  have hdollar : ∀ (b : Bool), ∀ c ∈ dollar b, continuesName c = true := by
    intro b c hc
    cases b
    · cases hc
    · obtain rfl := List.mem_singleton.1 hc
      decide
  refine ⟨?_, fun c hc => ?_, hrest⟩
  · cases hfixed : corner.columnFixed
    · refine ⟨l, letters ++ (dollar corner.rowFixed ++ corner.digits), ?_, ?_⟩
      · simp [CornerText.chars, hfixed, hcons, dollar]
      · simp [beginsName, hl]
    · refine ⟨'$', l :: letters ++ (dollar corner.rowFixed ++ corner.digits), ?_, ?_⟩
      · simp [CornerText.chars, hfixed, hcons, dollar]
      · simp [beginsName, hl]
  · simp only [CornerText.chars, List.mem_append] at hc
    rcases hc with ((hc | hc) | hc) | hc
    · exact hdollar _ c hc
    · have : SheetPress.isAsciiLetter c = true := isAsciiLetter_iff.2 (Or.inl (h.isUpper c hc))
      simp [continuesName, startsName, this]
    · exact hdollar _ c hc
    · simp [continuesName, h.isAsciiDigit c hc]

theorem isLower_eq_false (h : corner.Proper) : ∀ c ∈ corner.chars, c.isLower = false := by
  intro c hc
  rw [← Bool.not_eq_true, isLower_iff]
  have hdollar : ∀ (b : Bool), c ∈ dollar b → c.toNat = 36 := by
    intro b hc
    cases b
    · cases hc
    · obtain rfl := List.mem_singleton.1 hc
      rfl
  simp only [CornerText.chars, List.mem_append] at hc
  rcases hc with ((hc | hc) | hc) | hc
  · have := hdollar _ hc
    omega
  · have := isUpper_iff.1 (h.isUpper c hc)
    omega
  · have := hdollar _ hc
    omega
  · have := isAsciiDigit_iff.1 (h.isAsciiDigit c hc)
    omega

/-- A corner is not one of the words for truth values: they have no digits. -/
theorem nameToken_eq (h : corner.Proper) :
    nameToken corner.chars = .name (String.ofList corner.chars) := by
  have hupper := map_toUpper_of_isLower_eq_false h.isLower_eq_false
  have hdigit : ∃ c ∈ corner.chars, SheetPress.isAsciiDigit c = true := by
    obtain ⟨d, digits, hcons⟩ := List.exists_cons_of_ne_nil h.digits_ne_nil
    have hd : d ∈ corner.digits := hcons ▸ List.mem_cons_self ..
    exact ⟨d, List.mem_append_right _ hd, h.isAsciiDigit d hd⟩
  obtain ⟨d, hd, hdigit⟩ := hdigit
  unfold nameToken
  rw [hupper]
  split
  · rename_i heq
    have hchars : corner.chars = ['T', 'R', 'U', 'E'] := by
      rw [← String.toList_ofList (l := corner.chars), heq]
      rfl
    rw [hchars] at hd
    fin_cases hd <;> exact absurd hdigit (by decide)
  · rename_i heq
    have hchars : corner.chars = ['F', 'A', 'L', 'S', 'E'] := by
      rw [← String.toList_ofList (l := corner.chars), heq]
      rfl
    rw [hchars] at hd
    fin_cases hd <;> exact absurd hdigit (by decide)
  · rfl

theorem lexes (h : corner.Proper) (hrest : ∀ c ∈ rest.head?, continuesName c = false) :
    Lexes (corner.chars ++ rest) [.name (String.ofList corner.chars)] rest := by
  have := lexes_name (h.isName hrest)
  rwa [h.nameToken_eq] at this

end CornerText.Proper

end SheetPress
