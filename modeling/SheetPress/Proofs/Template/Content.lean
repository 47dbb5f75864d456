import SheetPress.Proofs.Template.Formulas

/-!
# Contents of the cells of a table

`recordContent` says what a record puts into the cell of a column, by the sample that it follows.
Whatever was in the cell before, this is what is in it when the cell has been written.

* `content_writeContent`, `content_writeSubtotal` — what is written is `recordContent`.
-/

namespace SheetPress

/-- What a cell holds apart from its style. -/
structure CellEntry where
  formula : Option String := none
  value : CellValue := .empty
  deriving DecidableEq, Repr

/-- A cell with a content in a style. -/
def CellEntry.inStyle (content : CellEntry) (style : Nat) : Cell :=
  { formula := content.formula, value := content.value, style }

/-- What is at a place of a sheet; where no cell is stored it is nothing. -/
def Worksheet.content (w : Worksheet) (place : Coord) : CellEntry :=
  let cell := (w.cell? place).getD {}
  ⟨cell.formula, cell.value⟩

/-- What a record puts into the cell of a column in some row, by its sample.  A subtotal record has a
formula or a label and nothing else. -/
def recordContent (functions : FunctionTable) (row : Nat) (column : TableColumn) (sample : Sample)
    (record : Record) : Except TemplateError CellEntry :=
  if record.isSubtotal then
    match record.field? column.dataField with
    | some (.formula formula) => .ok { formula := some formula }
    | some (.text text) => .ok (if byteCount text > 1 then { value := .text text } else {})
    | _ => .ok {}
  else
    match sample.formula with
    | some formula =>
      (retargetFormula formula (row + 1) renderShift).map fun moved => { formula := some moved }
    | none =>
      if column.isTemplate then
        (renderText functions record.toJson column.dataField).map fun text => { value := .text text }
      else
        match record.field? column.dataField with
        | some (.formula formula) => .ok { formula := some formula }
        | some value => .ok { value := value.toCell }
        | none => .ok {}

/-! ## Writing a content -/

namespace Worksheet

variable {w : Worksheet} {place : Coord}

theorem content_setValue (w : Worksheet) (place : Coord) (value : CellValue) :
    (w.setValue place value).content place = { value } := by
  rw [content, cell?_setValue, if_pos rfl]
  rfl

theorem content_setFormula {formula : String} (h : formula.startsWith "=" = true) (w : Worksheet)
    (place : Coord) : (w.setFormula place formula).content place = { formula := some formula } := by
  rw [content, cell?_setFormula (isBlankText_of_startsWith h), if_pos rfl,
    withEquals_of_startsWith h]
  rfl

theorem content_clearCell (w : Worksheet) (place : Coord) :
    (w.clearCell place).content place = {} := by
  rw [content, cell?_clearCell, if_pos rfl]
  cases w.cell? place with
  | none => rfl
  | some cell =>
    rw [Option.bind_some]
    split <;> rfl

/-- A cell that gets a style is stored with its content. -/
theorem cell?_setStyle_eq (w : Worksheet) (place p : Coord) (style : Nat) :
    (w.setStyle place style).cell? p =
      if p = place then some ((w.content place).inStyle style) else w.cell? p :=
  cell?_setStyle w place p style

end Worksheet

section Writing

variable {functions : FunctionTable} {w w' : Worksheet} {place p : Coord} {column : TableColumn}
  {sample : Sample} {record : Record}

theorem content_writeSubtotal (hrecord : record.MarkedAt column.dataField)
    (hkind : record.isSubtotal = true)
    (w : Worksheet) (place : Coord) :
    recordContent functions place.row column sample record =
      .ok ((writeSubtotal w place column record).content place) := by
  rw [recordContent, if_pos hkind, writeSubtotal]
  cases hfield : record.field? column.dataField with
  | none => exact congrArg _ (w.content_clearCell place).symm
  | some value =>
    cases value with
    | formula formula =>
      exact congrArg _ (Worksheet.content_setFormula (hrecord _ hfield) _ place).symm
    | text text =>
      dsimp only
      split
      · exact congrArg _ (Worksheet.content_setValue _ place _).symm
      · exact congrArg _ (w.content_clearCell place).symm
    | number x => exact congrArg _ (w.content_clearCell place).symm
    | boolean b => exact congrArg _ (w.content_clearCell place).symm

theorem cell?_writeSubtotal_of_ne (w : Worksheet) (hp : p ≠ place) :
    (writeSubtotal w place column record).cell? p = w.cell? p := by
  unfold writeSubtotal
  dsimp only
  have hclear := w.cell?_clearCell_of_ne hp
  split
  · rw [Worksheet.cell?_setFormula_of_ne _ _ hp, hclear]
  · split
    · rw [Worksheet.cell?_setValue, if_neg hp, hclear]
    · exact hclear
  · exact hclear

theorem cell?_writeContent_of_ne (hp : p ≠ place)
    (h : writeContent functions w place column sample record = .ok w') : w'.cell? p = w.cell? p := by
  have hvalue : ∀ value, (w.setValue place value).cell? p = w.cell? p := fun value =>
    (w.cell?_setValue place p value).trans (if_neg hp)
  unfold writeContent at h
  cases hformula : sample.formula with
  | some formula =>
    rw [hformula] at h
    dsimp only at h
    cases hmoved : retargetFormula formula (place.row + 1) renderShift with
    | error e => rw [hmoved] at h; cases h
    | ok moved =>
      rw [hmoved] at h
      obtain rfl := Except.ok.inj h
      exact w.cell?_setFormula_of_ne moved hp
  | none =>
    rw [hformula] at h
    dsimp only at h
    by_cases htemplate : column.isTemplate = true
    · rw [if_pos htemplate] at h
      cases htext : renderText functions record.toJson column.dataField with
      | error e => rw [htext] at h; cases h
      | ok text =>
        rw [htext] at h
        obtain rfl := Except.ok.inj h
        exact hvalue _
    · rw [if_neg htemplate] at h
      split at h
      · obtain rfl := Except.ok.inj h
        exact w.cell?_setFormula_of_ne _ hp
      · obtain rfl := Except.ok.inj h
        exact hvalue _
      · obtain rfl := Except.ok.inj h
        exact w.cell?_clearCell_of_ne hp

/-- What is written into a cell of a data record is its content. -/
theorem content_writeContent (hrecord : record.MarkedAt column.dataField)
    (hsample : ∀ formula, sample.formula = some formula → formula.startsWith "=" = true)
    (hkind : record.isSubtotal = false)
    (h : writeContent functions w place column sample record = .ok w') :
    recordContent functions place.row column sample record = .ok (w'.content place) := by
  rw [recordContent, if_neg (by simp [hkind])]
  unfold writeContent at h
  cases hformula : sample.formula with
  | some formula =>
    rw [hformula] at h
    dsimp only at h ⊢
    cases hmoved : retargetFormula formula (place.row + 1) renderShift with
    | error e => rw [hmoved] at h; cases h
    | ok moved =>
      rw [hmoved] at h
      obtain rfl := Except.ok.inj h
      have hmarked := startsWith_retargetFormula (hsample formula hformula) hmoved
      exact congrArg _ (Worksheet.content_setFormula hmarked w place).symm
  | none =>
    rw [hformula] at h
    dsimp only at h ⊢
    by_cases htemplate : column.isTemplate = true
    · rw [if_pos htemplate] at h ⊢
      cases htext : renderText functions record.toJson column.dataField with
      | error e => rw [htext] at h; cases h
      | ok text =>
        rw [htext] at h
        obtain rfl := Except.ok.inj h
        exact congrArg _ (w.content_setValue place _).symm
    · rw [if_neg htemplate] at h ⊢
      cases hfield : record.field? column.dataField with
      | none =>
        rw [hfield] at h
        obtain rfl := Except.ok.inj h
        exact congrArg _ (w.content_clearCell place).symm
      | some value =>
        rw [hfield] at h
        cases value with
        | formula formula =>
          obtain rfl := Except.ok.inj h
          exact congrArg _ (Worksheet.content_setFormula (hrecord _ hfield) w place).symm
        | text text =>
          obtain rfl := Except.ok.inj h
          exact congrArg _ (w.content_setValue place _).symm
        | number x =>
          obtain rfl := Except.ok.inj h
          exact congrArg _ (w.content_setValue place _).symm
        | boolean b =>
          obtain rfl := Except.ok.inj h
          exact congrArg _ (w.content_setValue place _).symm

end Writing

end SheetPress
