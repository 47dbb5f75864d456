import SheetPress.Formula.Shift
import SheetPress.Proofs.Coord.Columns
import SheetPress.Proofs.Formula.Rescanning
import SheetPress.Template.Retarget

/-!
# Replayed formulas

A formula that is replayed on another row is its text with every reference moved, those to other
sheets like the others.  The edits of a sheet are different there: they leave references to other
sheets as they are.

* `retargetFormula_eq_ok_iff` — which formulas are replayed, and what they become.
* `retargetFormula_moves` — what becomes of each reference, and which of them come back as written.
-/

namespace SheetPress

/-! ## References on another row -/

/-- A cell reference on another row, in the column some steps to the right of its own (or to the
left); its dollar signs stay. -/
structure CellRef.RetargetsTo (row : Nat) (shift : Int) (a a' : CellRef) : Prop where
  row : a'.row = row
  columnFixed : a'.columnFixed = a.columnFixed
  rowFixed : a'.rowFixed = a.rowFixed
  column : ∃ col col', a.columnIndex? = some col ∧ a'.column = columnName col' ∧
    col' < maxColumns ∧ (col' : Int) = col + shift

/-- A reference on another row: each of its corners is moved. -/
structure Reference.RetargetsTo (row : Nat) (shift : Int) (r r' : Reference) : Prop where
  first : r.first.RetargetsTo row shift r'.first
  last : Option.Rel (CellRef.RetargetsTo row shift) r.last r'.last
  qualified : r'.qualified = r.qualified

section Retarget

variable {row : Nat} {shift : Int}

theorem CellRef.retarget_eq_ok_iff {a a' : CellRef} :
    a.retarget row shift = .ok a' ↔ a.RetargetsTo row shift a' := by
  unfold CellRef.retarget
  cases hcol : a.columnIndex? with
  | none =>
    constructor
    · intro h
      cases h
    · intro h
      obtain ⟨col, -, hcol', -⟩ := h.column
      rw [hcol] at hcol'
      cases hcol'
  | some col =>
    dsimp only
    constructor
    · intro h
      split at h
      · cases h
      · next hin =>
        obtain rfl := Except.ok.inj h
        rw [not_or] at hin
        have hnonneg : 0 ≤ Int.ofNat col + shift := by omega
        refine ⟨rfl, rfl, rfl, col, (Int.ofNat col + shift).toNat, hcol, rfl, ?_, ?_⟩
        · have hlimit : Int.ofNat maxColumns = (maxColumns : Int) := rfl
          omega
        · exact Int.toNat_of_nonneg hnonneg
    · rintro ⟨hrow, hcolumn, hfixed, col', col'', hcol', hname, hlt, hmoved⟩
      obtain rfl := Option.some.inj (hcol.symm.trans hcol')
      have hmoved' : Int.ofNat col + shift = (col'' : Int) := hmoved.symm
      have hlimit : Int.ofNat maxColumns = (maxColumns : Int) := rfl
      rw [hmoved', if_neg (by omega), Int.toNat_natCast]
      obtain ⟨column, row', columnFixed, rowFixed⟩ := a'
      dsimp only at hrow hcolumn hfixed hname
      subst hrow hcolumn hfixed hname
      rfl

theorem Reference.retarget_eq_ok_iff {r r' : Reference} :
    r.retarget row shift = .ok r' ↔ r.RetargetsTo row shift r' := by
  obtain ⟨first, last, qualified⟩ := r
  obtain ⟨first', last', qualified'⟩ := r'
  unfold Reference.retarget
  dsimp only
  constructor
  · intro h
    cases hfirst : first.retarget row shift with
    | error e => rw [hfirst] at h; cases h
    | ok a =>
      rw [hfirst] at h
      have hmoved := CellRef.retarget_eq_ok_iff.1 hfirst
      cases last with
      | none =>
        cases Except.ok.inj h
        exact ⟨hmoved, .none, rfl⟩
      | some last =>
        cases hlast : last.retarget row shift with
        | error e =>
          dsimp only [bind, Except.bind] at h
          rw [hlast] at h
          cases h
        | ok b =>
          dsimp only [bind, Except.bind] at h
          rw [hlast] at h
          cases Except.ok.inj h
          exact ⟨hmoved, .some (CellRef.retarget_eq_ok_iff.1 hlast), rfl⟩
  · rintro ⟨hfirst, hlast, hqualified⟩
    dsimp only at hfirst hlast hqualified
    rw [CellRef.retarget_eq_ok_iff.2 hfirst]
    subst hqualified
    cases hlast with
    | none => rfl
    | some hlast =>
      dsimp only [bind, Except.bind]
      rw [CellRef.retarget_eq_ok_iff.2 hlast]

/-- What a piece of a formula becomes: a single character stays, and a reference moves, whether it
is to its own sheet or to another one. -/
inductive Piece.RetargetsTo (row : Nat) (shift : Int) : Piece → List Char → Prop
  | char (c : Char) : RetargetsTo row shift (.char c) [c]
  | reference {source : ReferenceText} {ref moved : Reference} (h : ref.RetargetsTo row shift moved) :
    RetargetsTo row shift (.reference source ref) moved.text.toList

theorem Piece.edit_retarget_eq_ok_iff {piece : Piece} {part : List Char} :
    piece.edit (fun r => (r.retarget row shift).map fun moved => some moved.text) = .ok part ↔
      piece.RetargetsTo row shift part := by
  cases piece with
  | char c =>
    constructor
    · intro h
      obtain rfl := Except.ok.inj h
      exact .char c
    · rintro ⟨⟩
      rfl
  | reference source ref =>
    dsimp only [Piece.edit]
    constructor
    · intro h
      cases hmoved : ref.retarget row shift with
      | error e => rw [hmoved] at h; cases h
      | ok moved =>
        rw [hmoved] at h
        obtain rfl := Except.ok.inj h
        exact .reference (Reference.retarget_eq_ok_iff.1 hmoved)
    · rintro ⟨⟩
      next hmoved =>
        rw [Reference.retarget_eq_ok_iff.2 hmoved]
        rfl

/-- A formula is replayed if all its references, to whatever sheet, have columns of a sheet before
and after they move; it becomes its text with these references in their places. -/
theorem retargetFormula_eq_ok_iff {formula moved : String} :
    retargetFormula formula row shift = .ok moved ↔ ∃ parts, moved = String.ofList parts.flatten ∧
      List.Forall₂ (Piece.RetargetsTo row shift) (piecesOf formula.toList) parts := by
  unfold retargetFormula
  rw [editReferences_eq_ok_iff]
  simp only [Piece.edit_retarget_eq_ok_iff]

end Retarget

/-! ## References that come back as written -/

/-- Every row of a reference is spelled as a given row. -/
def ReferenceText.StandsOn (row : Nat) (source : ReferenceText) : Prop :=
  ∀ corner ∈ source.first :: source.last.toList, corner.digits = Nat.toDigits 10 row

theorem ReferenceText.Spelled.eq_of_chars_eq {source source' : ReferenceText} (h : source.Spelled)
    (h' : source'.Spelled) (hchars : source.chars = source'.chars) : source = source' := by
  have hends (source : ReferenceText) : source.EndsBefore [] := ⟨by simp, by simp⟩
  have hsplit := ReferenceText.split?_eq h (hends source)
  rw [hchars, ReferenceText.split?_eq h' (hends source')] at hsplit
  exact (Prod.mk.inj (Option.some.inj hsplit)).1.symm

section AsWritten

variable {row : Nat} {shift : Int}

theorem CellRef.RetargetsTo.spelled {a a' : CellRef} (h : a.RetargetsTo row shift a') :
    a'.corner.Spelled := by
  obtain ⟨-, col', -, hname, -, -⟩ := h.column
  refine (CellRef.proper_corner ?_ ?_).spelled
  · simpa [hname, columnName] using columnLetters_ne_nil col'
  · simpa [hname, columnName] using @isUpper_of_mem_columnLetters col'

/-- The column that spelled letters name is written in these letters. -/
theorem CornerText.Spelled.columnLetters_eq {corner : CornerText} (h : corner.Spelled)
    {a : CellRef} (ha : corner.ref? = some a) {col : Nat} (hcol : a.columnIndex? = some col) :
    columnLetters col = corner.letters := by
  obtain ⟨row, -, rfl⟩ := Option.map_eq_some_iff.1 ha
  rw [CellRef.columnIndex?, String.toList_ofList, parseColumn?] at hcol
  split at hcol
  · dsimp only at hcol
    split at hcol
    · obtain rfl := Option.some.inj hcol
      exact columnLetters_columnIndex h.letters_ne_nil h.isUpper
    · cases hcol
  · cases hcol

/-- A corner comes back as written if it is on the row already and no column moves. -/
theorem CellRef.RetargetsTo.corner_eq_iff {corner : CornerText} (hspelled : corner.Spelled)
    {a a' : CellRef} (ha : corner.ref? = some a) (h : a.RetargetsTo row shift a') :
    a'.corner = corner ↔ shift = 0 ∧ corner.digits = Nat.toDigits 10 row := by
  obtain ⟨col, col', hcol, hname, -, hmoved⟩ := h.column
  have hletters := hspelled.columnLetters_eq ha hcol
  have hfixed : a.columnFixed = corner.columnFixed ∧ a.rowFixed = corner.rowFixed := by
    obtain ⟨n, -, rfl⟩ := Option.map_eq_some_iff.1 ha
    exact ⟨rfl, rfl⟩
  have hcorner : a'.corner =
      ⟨corner.columnFixed, columnLetters col', corner.rowFixed, Nat.toDigits 10 row⟩ := by
    rw [CellRef.corner, h.row, h.columnFixed, h.rowFixed, hname, columnName, String.toList_ofList,
      hfixed.1, hfixed.2]
  obtain ⟨columnFixed, letters, rowFixed, digits⟩ := corner
  dsimp only at hletters hcorner ⊢
  rw [hcorner, CornerText.mk.injEq]
  constructor
  · rintro ⟨-, heq, -, hdigits⟩
    have hcols := congrArg columnIndex (heq.trans hletters.symm)
    rw [columnIndex_columnLetters, columnIndex_columnLetters] at hcols
    exact ⟨by omega, hdigits.symm⟩
  · rintro ⟨rfl, hdigits⟩
    obtain rfl : col' = col := by omega
    exact ⟨rfl, hletters, rfl, hdigits.symm⟩

/-- A reference comes back as written if it is on the row already and no column moves, and only
then. -/
theorem Reference.RetargetsTo.chars_eq_iff {source : ReferenceText} (hspelled : source.Spelled)
    {ref moved : Reference} {qualified : Bool} (href : source.reference? qualified = some ref)
    (h : ref.RetargetsTo row shift moved) :
    moved.text.toList = source.chars ↔ shift = 0 ∧ source.StandsOn row := by
  obtain ⟨first, last⟩ := source
  obtain ⟨a', b', qualified'⟩ := moved
  obtain ⟨a, ha, rfl⟩ := Option.map_eq_some_iff.1 href
  obtain ⟨hfirst, hlast, -⟩ := h
  obtain ⟨hspelled₁, hspelled₂⟩ := hspelled
  dsimp only at ha hfirst hlast hspelled₁ hspelled₂
  have hcorners : (Reference.mk a' b' qualified').text.toList = ReferenceText.chars ⟨first, last⟩ ↔
      a'.corner = first ∧ b'.map CellRef.corner = last := by
    have hmoved : (Reference.spelling ⟨a', b', qualified'⟩).Spelled := by
      refine ⟨hfirst.spelled, fun corner hcorner => ?_⟩
      obtain ⟨c, rfl, rfl⟩ := Option.map_eq_some_iff.1 hcorner
      generalize last.bind CornerText.ref? = b at hlast
      cases hlast with
      | some hlast => exact hlast.spelled
    rw [Reference.toList_text]
    constructor
    · intro hchars
      exact ReferenceText.mk.inj (hmoved.eq_of_chars_eq ⟨hspelled₁, hspelled₂⟩ hchars)
    · rintro ⟨rfl, rfl⟩
      rfl
  have hfirst_iff := hfirst.corner_eq_iff hspelled₁ ha
  rw [hcorners, hfirst_iff, ReferenceText.StandsOn, List.forall_mem_cons, and_assoc]
  refine and_congr_right fun hshift => and_congr_right fun hdigits => ?_
  cases last with
  | none =>
    cases hlast with
    | none => simp
  | some last =>
    cases hb : last.ref? with
    | none =>
      -- a second corner on the row would name a cell, as the first one does
      have hrow : last.digits ≠ Nat.toDigits 10 row := fun hlast' => by
        obtain ⟨n, hn, -⟩ := Option.map_eq_some_iff.1 ha
        rw [CornerText.ref?, hlast', ← hdigits, hn] at hb
        cases hb
      rw [Option.bind_some, hb] at hlast
      cases hlast with
      | none => simp [hrow]
    | some b =>
      rw [Option.bind_some, hb] at hlast
      cases hlast with
      | some hlast =>
        have hlast_iff := hlast.corner_eq_iff (hspelled₂ last rfl) hb
        simpa [hshift] using hlast_iff

end AsWritten

/-- What becomes of a piece of a formula that is replayed: a single character stays, and a reference
moves and so comes back as written only if it was on the row already and no column moves. -/
inductive Piece.ReplaysAs (row : Nat) (shift : Int) : Piece → List Char → Prop
  | char (c : Char) : ReplaysAs row shift (.char c) [c]
  | reference {source : ReferenceText} {ref moved : Reference}
    (h : ref.RetargetsTo row shift moved)
    (asWritten : moved.text.toList = source.chars ↔ shift = 0 ∧ source.StandsOn row) :
    ReplaysAs row shift (.reference source ref) moved.text.toList

/-- A reference to another sheet is no concern of an edit of its own sheet. -/
theorem Reference.edits_of_qualified {ref : Reference} (h : ref.qualified = true) (start count : Nat) :
    ref.insertRows? start count = none ∧ ref.removeRow? start = none ∧
      ref.removeCol? start = none :=
  ⟨if_pos (Or.inl h), if_pos h, if_pos h⟩

/-- Replaying a formula moves every reference to the row and by the shift, and leaves the rest of the
text as it is.  A reference to another sheet moves too, where the edits of its sheet would leave it
as written: it comes back as written only if it was on the row already and no column moves. -/
theorem retargetFormula_moves {formula moved : String} {row : Nat} {shift : Int}
    (h : retargetFormula formula row shift = .ok moved) :
    (∃ parts, moved = String.ofList parts.flatten ∧
      List.Forall₂ (Piece.ReplaysAs row shift) (piecesOf formula.toList) parts) ∧
    ∀ source ref, .reference source ref ∈ piecesOf formula.toList → ref.qualified = true →
      ∀ start count, ref.insertRows? start count = none ∧ ref.removeRow? start = none ∧
        ref.removeCol? start = none := by
  refine ⟨?_, fun source ref _ hqualified start count =>
    Reference.edits_of_qualified hqualified start count⟩
  obtain ⟨parts, rfl, hparts⟩ := retargetFormula_eq_ok_iff.1 h
  refine ⟨parts, rfl, ?_⟩
  have hfound : ∀ piece ∈ piecesOf formula.toList, ∀ source ref, piece = .reference source ref →
      source.Spelled ∧ source.reference? ref.qualified = some ref := by
    rintro piece hmem source ref rfl
    exact of_mem_piecesFrom hmem
  refine ((List.forall₂_and_left ..).2 ⟨hfound, hparts⟩).imp fun piece part hpiece => ?_
  obtain ⟨hsource, hmoves⟩ := hpiece
  cases hmoves with
  | char c => exact .char c
  | reference hmoved =>
    obtain ⟨hspelled, href⟩ := hsource _ _ rfl
    exact .reference hmoved (hmoved.chars_eq_iff hspelled href)

/-- The range of a look-up on another sheet moves as the reference beside it does. -/
theorem retargetFormula_moves_lookup :
    retargetFormula "=VLOOKUP(C5,'Old rates'!$B$1:$D$9,2)" 10 (-1) =
        .ok "=VLOOKUP(B10,'Old rates'!$A$10:$C$10,2)" ∧
      (∃ parts, "=VLOOKUP(B10,'Old rates'!$A$10:$C$10,2)" = String.ofList parts.flatten ∧
        List.Forall₂ (Piece.ReplaysAs 10 (-1))
          (piecesOf "=VLOOKUP(C5,'Old rates'!$B$1:$D$9,2)".toList) parts) ∧
      ∀ source ref, .reference source ref ∈ piecesOf "=VLOOKUP(C5,'Old rates'!$B$1:$D$9,2)".toList →
        ref.qualified = true → ∀ start count, ref.insertRows? start count = none ∧
          ref.removeRow? start = none ∧ ref.removeCol? start = none := by
  have h : retargetFormula "=VLOOKUP(C5,'Old rates'!$B$1:$D$9,2)" 10 (-1) =
      .ok "=VLOOKUP(B10,'Old rates'!$A$10:$C$10,2)" := by decide +kernel
  exact ⟨h, retargetFormula_moves h⟩

/-- The reference to another sheet moves with the others when the formula is replayed; when the first
column is deleted, it alone stays. -/
theorem otherSheet_moves_on_replay :
    (referencesOf "=Rates!B2*C5").map (fun ref => (ref.text, ref.qualified)) =
        [("B2", true), ("C5", false)] ∧
      retargetFormula "=Rates!B2*C5" 10 (-1) = .ok "=Rates!A10*B10" ∧
      shiftColsForRemove "=Rates!B2*C5" 0 = "=Rates!B2*B5" := by
  decide +kernel

end SheetPress
