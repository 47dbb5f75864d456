import SheetPress.Proofs.Template.Retargeting

/-!
# Formulas that are replayed again

A formula that was replayed on a row can be replayed from there on another row.  What comes out is
what the first formula gives on the last row, its columns moved by both distances.  The formula need
not parse: the references of the replayed text are found where those of the first text stood, though
their letters and digits may be fewer or more, and what looked like a reference and was none still
does.

* `CellRef.RetargetsTo.retargetsTo_iff` — where a reference that has moved can go.
* `piecesOf_of_retargetFormula` — the pieces of a replayed formula.
* `retargetFormula_retargetFormula` — replaying twice is replaying once.
-/

namespace SheetPress

/-! ## Rows that are numbers -/

/-- The row of a corner is a number that fits an index, in ASCII digits. -/
def CornerText.HasIndexRow (corner : CornerText) : Prop :=
  corner.digits.all isAsciiDigit = true ∧ digitsValue corner.digits < indexLimit

instance (corner : CornerText) : Decidable corner.HasIndexRow := inferInstanceAs (Decidable (_ ∧ _))

/-- The rows of a piece, if it is a reference, are numbers that fit an index. -/
def Piece.HasIndexRows : Piece → Prop
  | .char _ => True
  | .reference source _ => ∀ corner ∈ source.first :: source.last.toList, corner.HasIndexRow

instance : DecidablePred Piece.HasIndexRows
  | .char _ => inferInstanceAs (Decidable True)
  | .reference source _ =>
    inferInstanceAs (Decidable (∀ corner ∈ source.first :: source.last.toList, corner.HasIndexRow))

/-- The rows of all references of a formula are numbers that fit an index. -/
def HasIndexRows (formula : String) : Prop :=
  ∀ piece ∈ piecesOf formula.toList, piece.HasIndexRows

instance (formula : String) : Decidable (HasIndexRows formula) :=
  inferInstanceAs (Decidable (∀ piece ∈ piecesOf formula.toList, piece.HasIndexRows))

theorem CornerText.HasIndexRow.isSome_ref? {corner : CornerText} (h : corner.HasIndexRow)
    (hne : corner.digits ≠ []) : corner.ref?.isSome = true := by
  rw [CornerText.ref?, readNat?_digits hne h.1, if_pos h.2]
  rfl

/-- A second corner with such a row is a corner of the reference. -/
theorem ReferenceText.last_eq_none {source : ReferenceText} {qualified : Bool} {ref : Reference}
    (hspelled : source.Spelled) (hrows : (Piece.reference source ref).HasIndexRows)
    (href : source.reference? qualified = some ref) (hlast : ref.last = none) :
    source.last = none := by
  obtain ⟨first, last⟩ := source
  obtain ⟨a, -, rfl⟩ := Option.map_eq_some_iff.1 href
  cases last with
  | none => rfl
  | some last =>
    have hcorner : last.HasIndexRow := hrows last (by simp)
    have hnamed := hcorner.isSome_ref? (hspelled.2 last rfl).digits_ne_nil
    have hnone : last.ref? = none := hlast
    rw [hnone] at hnamed
    cases hnamed

/-! ## References that move twice -/

section Twice

variable {row row' : Nat} {shift shift' : Int}

/-- Where a reference to a cell can go once it has moved is where it could have gone at once. -/
theorem CellRef.RetargetsTo.retargetsTo_iff {a b c : CellRef} (h : a.RetargetsTo row shift b) :
    b.RetargetsTo row' shift' c ↔ a.RetargetsTo row' (shift + shift') c := by
  obtain ⟨-, hcolumnFixed, hrowFixed, col, col', hcol, hname, hlt, hmoved⟩ := h
  have hcol' : b.columnIndex? = some col' := by
    rw [columnIndex?, hname, columnName, String.toList_ofList, parseColumn?_columnLetters hlt]
  constructor
  · rintro ⟨hrow, hcolumnFixed', hrowFixed', first, last, hfirst, hlast, hlt', hmoved'⟩
    obtain rfl := Option.some.inj (hcol'.symm.trans hfirst)
    exact ⟨hrow, hcolumnFixed'.trans hcolumnFixed, hrowFixed'.trans hrowFixed, col, last, hcol,
      hlast, hlt', by omega⟩
  · rintro ⟨hrow, hcolumnFixed', hrowFixed', first, last, hfirst, hlast, hlt', hmoved'⟩
    obtain rfl := Option.some.inj (hcol.symm.trans hfirst)
    exact ⟨hrow, hcolumnFixed'.trans hcolumnFixed.symm, hrowFixed'.trans hrowFixed.symm, col', last,
      hcol', hlast, hlt', by omega⟩

theorem Reference.RetargetsTo.retargetsTo_iff {r s t : Reference} (h : r.RetargetsTo row shift s) :
    s.RetargetsTo row' shift' t ↔ r.RetargetsTo row' (shift + shift') t := by
  obtain ⟨first, last, qualified⟩ := r
  obtain ⟨first', last', qualified'⟩ := s
  obtain ⟨first'', last'', qualified''⟩ := t
  obtain ⟨hfirst, hlast, hqualified⟩ := h
  dsimp only at hfirst hlast hqualified
  subst hqualified
  have hlast_iff : Option.Rel (CellRef.RetargetsTo row' shift') last' last'' ↔
      Option.Rel (CellRef.RetargetsTo row' (shift + shift')) last last'' := by
    cases hlast with
    | none =>
      constructor <;> rintro ⟨⟩ <;> exact .none
    | some hlast =>
      constructor
      · rintro ⟨h⟩
        exact .some (hlast.retargetsTo_iff.1 h)
      · rintro ⟨h⟩
        exact .some (hlast.retargetsTo_iff.2 h)
  constructor
  · rintro ⟨hfirst', hlast', hqualified'⟩
    exact ⟨hfirst.retargetsTo_iff.1 hfirst', hlast_iff.1 hlast', hqualified'⟩
  · rintro ⟨hfirst', hlast', hqualified'⟩
    exact ⟨hfirst.retargetsTo_iff.2 hfirst', hlast_iff.2 hlast', hqualified'⟩

/-- A reference that has moved is read back from its text, in the place of the one that it was. -/
theorem Reference.RetargetsTo.replaces {source : ReferenceText} {ref moved : Reference}
    (hrow : row < indexLimit) (hlast : ref.last = none → source.last = none)
    (h : ref.RetargetsTo row shift moved) : Replaces source ref moved := by
  obtain ⟨first, last, qualified⟩ := ref
  obtain ⟨first', last', qualified'⟩ := moved
  obtain ⟨hfirst, hlast', hqualified⟩ := h
  dsimp only at hlast hfirst hlast' hqualified
  have hfits {a b : CellRef} (h : a.RetargetsTo row shift b) : b.row < indexLimit :=
    h.row.trans_lt hrow
  cases hlast' with
  | none =>
    refine Reference.replaces ⟨hfirst.spelled, by simp [spelling]⟩ ?_ hqualified fun _ => hlast rfl
    simpa using hfits hfirst
  | some hlast' =>
    refine Reference.replaces ⟨hfirst.spelled, ?_⟩ ?_ hqualified (by simp)
    · simpa [spelling] using hlast'.spelled
    · simpa using ⟨hfits hfirst, hfits hlast'⟩

end Twice

/-! ## Formulas -/

section Formulas

variable {formula moved : String} {row : Nat} {shift : Int}

/-- The reference that a replayed formula has in the place of another one, if that one can move. -/
def Reference.retarget? (row : Nat) (shift : Int) (ref : Reference) : Option Reference :=
  (ref.retarget row shift).toOption

theorem Reference.retarget?_eq_some_iff {ref s : Reference} :
    ref.retarget? row shift = some s ↔ ref.RetargetsTo row shift s := by
  rw [← Reference.retarget_eq_ok_iff, retarget?]
  cases ref.retarget row shift <;> simp [Except.toOption]

theorem Piece.RetargetsTo.edited {piece : Piece} {part : List Char}
    (h : piece.RetargetsTo row shift part) :
    piece.edited (fun r => (r.retarget? row shift).map Reference.text) = part := by
  cases h with
  | char c => rfl
  | reference h =>
    rw [Piece.edited, Reference.retarget?_eq_some_iff.2 h]
    rfl

/-- Replaying a formula, where it succeeds, is an edit that gives references the texts of others. -/
theorem eq_mapReferences_of_retargetFormula (h : retargetFormula formula row shift = .ok moved) :
    moved = mapReferences (fun r => (r.retarget? row shift).map Reference.text) formula := by
  obtain ⟨parts, rfl, hparts⟩ := retargetFormula_eq_ok_iff.1 h
  rw [mapReferences_eq_flatMap, List.flatMap]
  congr 2
  clear h
  generalize piecesOf formula.toList = pieces at hparts ⊢
  induction hparts with
  | nil => rfl
  | cons hpart _ ih => rw [List.map_cons, hpart.edited, ← ih]

/-- The pieces of a replayed formula are those of the first one, its references moved. -/
theorem piecesOf_of_retargetFormula (hrow : row < indexLimit) (hrows : HasIndexRows formula)
    (h : retargetFormula formula row shift = .ok moved) :
    piecesOf moved.toList = (piecesOf formula.toList).map (Piece.respell (·.retarget? row shift)) := by
  rw [eq_mapReferences_of_retargetFormula h]
  refine piecesOf_mapReferences fun source ref r hmem hr => ?_
  obtain ⟨hspelled, href⟩ := of_mem_piecesFrom hmem
  exact (Reference.retarget?_eq_some_iff.1 hr).replaces hrow
    (ReferenceText.last_eq_none hspelled (hrows _ hmem) href)

/-- What a piece that has moved can become is what it could have become at once. -/
theorem Piece.RetargetsTo.respell_iff {row' : Nat} {shift' : Int} {piece : Piece}
    {part part' : List Char} (h : piece.RetargetsTo row shift part) :
    (piece.respell (·.retarget? row shift)).RetargetsTo row' shift' part' ↔
      piece.RetargetsTo row' (shift + shift') part' := by
  cases h with
  | char c =>
    constructor <;> rintro ⟨⟩ <;> exact .char c
  | @reference source ref moved h =>
    rw [Piece.respell, Reference.retarget?_eq_some_iff.2 h]
    constructor
    · rintro ⟨⟩
      next h' => exact .reference (h.retargetsTo_iff.1 h')
    · rintro ⟨⟩
      next h' => exact .reference (h.retargetsTo_iff.2 h')

theorem forall₂_congr_of_forall₂ {α β γ : Type} {P : α → γ → Prop} {Q R : α → β → Prop}
    {items : List α} {parts : List γ} {results : List β} (h : List.Forall₂ P items parts)
    (hiff : ∀ a part, P a part → ∀ b, Q a b ↔ R a b) :
    List.Forall₂ Q items results ↔ List.Forall₂ R items results := by
  induction h generalizing results with
  | nil => rw [List.forall₂_nil_left_iff, List.forall₂_nil_left_iff]
  | cons hpart _ ih =>
    rw [List.forall₂_cons_left_iff, List.forall₂_cons_left_iff]
    exact exists₂_congr fun b rest => and_congr (hiff _ _ hpart b) (and_congr_left fun _ => ih)

/-- A formula was replayed on a row.  Replayed from there on another row, it gives the text that the
first formula gives there, its columns moved by both distances; it fails where that one does. -/
theorem retargetFormula_retargetFormula (hrow : row < indexLimit) (hrows : HasIndexRows formula)
    (h : retargetFormula formula row shift = .ok moved) (row' : Nat) (shift' : Int)
    (again : String) :
    retargetFormula moved row' shift' = .ok again ↔
      retargetFormula formula row' (shift + shift') = .ok again := by
  have hpieces := piecesOf_of_retargetFormula hrow hrows h
  obtain ⟨parts, -, hparts⟩ := retargetFormula_eq_ok_iff.1 h
  rw [retargetFormula_eq_ok_iff, retargetFormula_eq_ok_iff, hpieces]
  refine exists_congr fun parts' => and_congr_right fun _ => ?_
  rw [List.forall₂_map_left_iff]
  exact forall₂_congr_of_forall₂ hparts fun piece part hpart part' => hpart.respell_iff

/-- Columns gain a letter and lose it again, in a text that does not parse. -/
theorem retargetFormula_retargetFormula_carry :
    120 < indexLimit ∧ HasIndexRows "=SUM($Z5:AB$09)&\"Z5\"+LOG10(ZZ7)*'Z5'!Z07-x.Z5+(" ∧
      retargetFormula "=SUM($Z5:AB$09)&\"Z5\"+LOG10(ZZ7)*'Z5'!Z07-x.Z5+(" 120 1 =
        .ok "=SUM($AA120:AC$120)&\"Z5\"+LOG10(AAA120)*'Z5'!AA120-x.Z5+(" ∧
      retargetFormula "=SUM($AA120:AC$120)&\"Z5\"+LOG10(AAA120)*'Z5'!AA120-x.Z5+(" 7 (-26) =
        .ok "=SUM($A7:C$7)&\"Z5\"+LOG10(ZA7)*'Z5'!A7-x.Z5+(" := by
  have hrow : 120 < indexLimit := by decide
  have hrows : HasIndexRows "=SUM($Z5:AB$09)&\"Z5\"+LOG10(ZZ7)*'Z5'!Z07-x.Z5+(" := by
    decide +kernel
  have h : retargetFormula "=SUM($Z5:AB$09)&\"Z5\"+LOG10(ZZ7)*'Z5'!Z07-x.Z5+(" 120 1 =
      .ok "=SUM($AA120:AC$120)&\"Z5\"+LOG10(AAA120)*'Z5'!AA120-x.Z5+(" := by
    decide +kernel
  refine ⟨hrow, hrows, h, (retargetFormula_retargetFormula hrow hrows h 7 (-26) _).2 ?_⟩
  decide +kernel

end Formulas

end SheetPress
