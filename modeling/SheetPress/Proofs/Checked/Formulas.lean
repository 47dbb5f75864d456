import Mathlib
import SheetPress.Proofs.Checked.Edits
import SheetPress.Proofs.Sheet.LineReferences
import SheetPress.Proofs.Template.Retargeting

/-!
# Formulas in checked arithmetic

Formulas whose references are rows of a sheet can be edited without stopping, and a deletion leaves
them so.  A replayed formula puts its references on a row that is given, so that it does not matter
where they were.

* `ReferencesOnSheet.fit` — rows can be inserted into a formula on a sheet.
* `ReferencesOnSheet.removal` — the references that a deletion leaves.
* `checkedRetargetFormula_eq` — replayed formulas.
-/

namespace SheetPress

/-! ## References on a sheet -/

/-- The rows of a reference are rows of a sheet, and its second corner, if there is one, is read. -/
def Piece.OnSheet : Piece → Prop
  | .char _ => True
  | .reference source ref =>
    (∀ corner ∈ ref.first :: ref.last.toList, corner.row ≤ maxRows) ∧
      (ref.last = none → source.last = none)

instance : DecidablePred Piece.OnSheet
  | .char _ => .isTrue trivial
  | .reference _ _ => inferInstanceAs (Decidable (_ ∧ _))

/-- All references of a formula are on a sheet. -/
def ReferencesOnSheet (formula : String) : Prop := ∀ piece ∈ piecesOf formula.toList, piece.OnSheet

instance (formula : String) : Decidable (ReferencesOnSheet formula) :=
  inferInstanceAs (Decidable (∀ piece ∈ piecesOf formula.toList, piece.OnSheet))

/-- An edit leaves all references on a sheet if those that it writes are on one. -/
theorem ReferencesOnSheet.mapReferences {formula : String} (h : ReferencesOnSheet formula)
    {g : Reference → Option Replacement}
    (hg : ∀ source ref r, .reference source ref ∈ piecesOf formula.toList →
      g ref = some (.reference r) →
      Replaces source ref r ∧ ∀ corner ∈ r.first :: r.last.toList, corner.row ≤ maxRows) :
    ReferencesOnSheet (mapReferences (fun r => (g r).map Replacement.text) formula) := by
  intro piece hmem
  rw [piecesOf_mapReferences_replace fun source ref r hmem hr => (hg source ref r hmem hr).1,
    List.mem_flatMap] at hmem
  obtain ⟨old, hold, hmem⟩ := hmem
  cases old with
  | char c =>
    obtain rfl := List.mem_singleton.1 hmem
    trivial
  | reference source ref =>
    rw [Piece.replace] at hmem
    cases hgr : g ref with
    | none =>
      rw [hgr] at hmem
      obtain rfl := List.mem_singleton.1 hmem
      exact h _ hold
    | some replacement =>
      rw [hgr] at hmem
      cases replacement with
      | lost =>
        obtain ⟨c, -, rfl⟩ := List.mem_map.1 hmem
        trivial
      | reference r =>
        obtain rfl := List.mem_singleton.1 hmem
        refine ⟨(hg source ref r hold hgr).2, fun hlast => ?_⟩
        rw [Reference.spelling, hlast]
        rfl

/-- On a sheet references fit behind as many rows as a sheet has. -/
theorem ReferencesOnSheet.fit {formula : String} (h : ReferencesOnSheet formula) {count : Nat}
    (hcount : count ≤ maxRows) : ReferencesFit count formula := by
  intro source ref hmem _ corner hcorner
  have hrow := (h _ hmem).1 corner hcorner
  have hlimit : 2 * maxRows < indexLimit := by decide
  omega

/-! ## What a deletion leaves -/

theorem le_of_removeFromSpan {removed first last first' last' : Nat}
    (h : removeFromSpan removed first last = .moved first' last') : first' ≤ first ∧ last' ≤ last := by
  unfold removeFromSpan at h
  split_ifs at h <;> obtain ⟨rfl, rfl⟩ := SpanChange.moved.inj h <;> omega

/-- The row of a corner that moves is no greater than it was. -/
theorem Removal.row_withLine_le {k : Removal} {a : CellRef} {line : Nat} (h : line ≤ k.line a) :
    (k.withLine a line).row ≤ a.row := by
  cases k with
  | row removed => exact h
  | column removed => exact le_refl _

theorem Removal.proper_withLine (k : Removal) {a : CellRef} (line : Nat) (h : a.corner.Proper) :
    (k.withLine a line).corner.Proper := by
  cases k with
  | row removed => exact CellRef.proper_withRow line h
  | column removed => exact a.proper_withColumn line

/-- A deletion leaves the references of a formula on the sheet. -/
theorem ReferencesOnSheet.removal {formula : String} (h : ReferencesOnSheet formula) (k : Removal) :
    ReferencesOnSheet (k.formula formula) := by
  rw [k.formula_eq, show k.edit = fun r => (k.replacement? r).map Replacement.text from
    funext k.edit_eq_replacement]
  -- a reference that is written is proper, and its rows are no greater than those that were read
  refine h.mapReferences fun source ref r hmem hr => ?_
  obtain ⟨hspelled, href⟩ := of_mem_piecesFrom hmem
  obtain ⟨hrows, hread⟩ := h _ hmem
  obtain ⟨first, last, qualified⟩ := ref
  unfold Removal.replacement? at hr
  split at hr
  · cases hr
  · next hreaches =>
    rw [not_or, Bool.not_eq_true] at hreaches
    obtain rfl : qualified = false := hreaches.1
    split at hr
    · cases hr
    · cases hr
    · next first' last' hspan =>
      obtain rfl := Replacement.reference.inj (Option.some.inj hr)
      obtain ⟨hfirst, hlast⟩ := le_of_removeFromSpan hspan
      have hrows' : ∀ corner ∈ k.withLine first first' :: (last.map (k.withLine · last')).toList,
          corner.row ≤ maxRows := by
        intro corner hcorner
        rcases List.mem_cons.1 hcorner with rfl | hcorner
        · exact (Removal.row_withLine_le hfirst).trans (hrows first (List.mem_cons_self ..))
        · obtain ⟨b, rfl, rfl⟩ := Option.map_eq_some_iff.1 (Option.mem_toList.1 hcorner)
          exact (Removal.row_withLine_le hlast).trans (hrows b (by simp))
      have hproper := Reference.proper_spelling_map (hspelled.spelling_of_reference? href)
        (fun _ => k.proper_withLine first') (fun _ => k.proper_withLine last') false
      have hlimit : maxRows < indexLimit := by decide
      refine ⟨Reference.replaces hproper.spelled
        (fun corner hcorner => (hrows' corner hcorner).trans_lt hlimit) rfl fun hnone => ?_, hrows'⟩
      exact hread (Option.map_eq_none_iff.1 hnone)

/-! ## Replaying -/

/-- An edit that fails where another one does stops there. -/
theorem of_editReferences (f : Reference → Except TemplateError (Option String)) (formula : String) :
    Checked.of (editReferences f formula) = editReferences (fun r => Checked.of (f r)) formula := by
  have hpiece : ∀ piece : Piece,
      Checked.of (piece.edit f) = piece.edit fun r => Checked.of (f r) := by
    rintro (c | ⟨source, ref⟩)
    · rfl
    · rw [Piece.edit, Piece.edit]
      cases f ref <;> rfl
  have hpieces : ∀ pieces : List Piece, Checked.of (pieces.mapM (Piece.edit f)) =
      pieces.mapM (Piece.edit fun r => Checked.of (f r)) := by
    intro pieces
    induction pieces with
    | nil => rfl
    | cons piece pieces ih =>
      rw [List.mapM_cons, List.mapM_cons, ← hpiece, ← ih]
      cases piece.edit f with
      | error e => rfl
      | ok part => cases pieces.mapM (Piece.edit f) <;> rfl
  rw [editReferences, editReferences, ← hpieces]
  cases (piecesOf formula.toList).mapM (Piece.edit f) <;> rfl

/-- A cell reference on another row, its column moved. -/
def CellRef.checkedRetarget (row : Nat) (shift : Int) (r : CellRef) : Checked CellRef := do
  match ← checkedColumn? r.column.toList with
  | none => throw (.failed (.invalidColumn r.column))
  | some col =>
    let moved := Int.ofNat col + shift
    if moved < 0 ∨ moved ≥ Int.ofNat maxColumns then
      throw (.failed (.columnOutOfRange r.column shift))
    else return { r with column := ← checkedColumnName moved.toNat, row }

/-- A reference on another row, its columns moved. -/
def Reference.checkedRetarget (row : Nat) (shift : Int) (r : Reference) : Checked Reference := do
  let first ← r.first.checkedRetarget row shift
  let last ← r.last.mapM (·.checkedRetarget row shift)
  return { r with first, last }

/-- A formula with all its references on a row, counted from 1, and their columns moved. -/
def checkedRetargetFormula (formula : String) (row : Nat) (shift : Int) : Checked String :=
  editReferences (fun r => do return some (← r.checkedRetarget row shift).text) formula

section Retarget

variable {row : Nat} {shift : Int}

theorem CellRef.checkedRetarget_eq (a : CellRef) :
    a.checkedRetarget row shift = Checked.of (a.retarget row shift) := by
  rw [checkedRetarget, checkedColumn?_eq, pure_bind, retarget, columnIndex?]
  cases parseColumn? a.column.toList with
  | none => rfl
  | some col =>
    dsimp only
    split
    · rfl
    · rw [checkedColumnName_eq, pure_bind]
      rfl

theorem Reference.checkedRetarget_eq (r : Reference) :
    r.checkedRetarget row shift = Checked.of (r.retarget row shift) := by
  obtain ⟨first, last, qualified⟩ := r
  rw [checkedRetarget, retarget]
  dsimp only
  rw [CellRef.checkedRetarget_eq]
  cases first.retarget row shift with
  | error e => rfl
  | ok first =>
    cases last with
    | none => rfl
    | some last =>
      rw [Option.mapM_some, CellRef.checkedRetarget_eq]
      dsimp only
      cases last.retarget row shift <;> rfl

/-- A formula is replayed without stopping but for its own failures. -/
theorem checkedRetargetFormula_eq (formula : String) :
    checkedRetargetFormula formula row shift = Checked.of (retargetFormula formula row shift) := by
  rw [checkedRetargetFormula, retargetFormula, of_editReferences]
  congr 1
  funext r
  rw [Reference.checkedRetarget_eq]
  cases r.retarget row shift <;> rfl

end Retarget

end SheetPress
