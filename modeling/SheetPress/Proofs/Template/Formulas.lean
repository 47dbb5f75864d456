import SheetPress.Package.Load
import SheetPress.Proofs.Formula.Editing
import SheetPress.Proofs.Sheet.Writing
import SheetPress.Proofs.Template.Grouping
import SheetPress.Template.Report

/-!
# Formulas with their leading sign

Every formula that a table is written from begins with `=`: those of the template, as it was read
from a package and its texts were rendered, and those of the records, whether they come from data or
sum up a group.  Replaying a formula on another row keeps the sign.

* `Package.formulasMarked_of_loadSheet`, `Renderer.formulasMarked_of_renderTexts` — the template.
* `formulasMarked_of_recordsOf`, `formulasMarked_of_applySubtotals` — the records.
* `startsWith_retargetFormula` — a formula that is replayed.
-/

namespace SheetPress

/-- The formulas of a sheet are stored with their leading `=`. -/
def Worksheet.FormulasMarked (w : Worksheet) : Prop :=
  ∀ place formula, w.formula? place = some formula → formula.startsWith "=" = true

/-- If a field of a record is a formula, it is given with its leading `=`. -/
def Record.MarkedAt (record : Record) (name : String) : Prop :=
  ∀ formula, record.field? name = some (.formula formula) → formula.startsWith "=" = true

/-- The formulas of a record are given with their leading `=`. -/
def Record.FormulasMarked (record : Record) : Prop :=
  ∀ name formula, record.field? name = some (.formula formula) → formula.startsWith "=" = true

theorem exists_of_bind_eq_ok {ε α β : Type} {x : Except ε α} {f : α → Except ε β} {b : β}
    (h : (x >>= f) = .ok b) : ∃ a, x = .ok a ∧ f a = .ok b := by
  cases x with
  | error e => cases h
  | ok a => exact ⟨a, rfl, h⟩

/-- What every step of a run keeps holds of its result. -/
theorem invariant_of_foldlM_eq_ok {ε α β : Type} {P : β → Prop} {f : β → α → Except ε β}
    (hf : ∀ {b : β} {a : α} {b' : β}, P b → f b a = .ok b' → P b') {l : List α} {b b' : β}
    (hb : P b) (h : l.foldlM f b = .ok b') : P b' := by
  induction l generalizing b with
  | nil =>
    obtain rfl := Except.ok.inj h
    exact hb
  | cons a l ih =>
    obtain ⟨next, hnext, h⟩ := exists_of_bind_eq_ok h
    exact ih (hf hb hnext) h

/-! ## Texts that begin with the sign -/

theorem startsWith_equals_iff {text : String} :
    text.startsWith "=" = true ↔ ∃ rest, text.toList = '=' :: rest := by
  rw [String.startsWith_string_iff, show "=".toList = ['='] from rfl]
  constructor
  · rintro ⟨rest, hrest⟩
    exact ⟨rest, hrest.symm⟩
  · rintro ⟨rest, hrest⟩
    exact ⟨rest, hrest.symm⟩

theorem startsWith_equals_append (text : String) : ("=" ++ text).startsWith "=" = true :=
  startsWith_equals_iff.2 ⟨text.toList, String.toList_append ..⟩

theorem isBlankText_of_startsWith {text : String} (h : text.startsWith "=" = true) :
    isBlankText text = false := by
  obtain ⟨rest, hrest⟩ := startsWith_equals_iff.1 h
  have hequals : isBlank '=' = false := by decide +kernel
  rw [isBlankText, hrest, List.all_cons, hequals, Bool.false_and]

theorem withEquals_of_startsWith {text : String} (h : text.startsWith "=" = true) :
    withEquals text = text := if_pos h

/-! ## Replayed formulas -/

theorem piecesOf_equals_cons (rest : List Char) :
    ∃ pieces, piecesOf ('=' :: rest) = .char '=' :: pieces := by
  have hsplit : ReferenceText.split? ('=' :: rest) = none :=
    ReferenceText.split?_eq_none (CornerText.split?_eq_none_of_head rest (by decide))
  rw [piecesOf, piecesFrom.eq_def]
  dsimp only
  split
  · next heq =>
    rw [hsplit] at heq
    cases heq
  · exact ⟨_, rfl⟩

theorem mapM_edit_char_cons {ε : Type} (f : Reference → Except ε (Option String)) (c : Char)
    (pieces : List Piece) : (Piece.char c :: pieces).mapM (Piece.edit f) =
      (pieces.mapM (Piece.edit f)).map fun parts => [c] :: parts := by
  rw [List.mapM_cons]
  cases pieces.mapM (Piece.edit f) <;> rfl

/-- A formula that is replayed on another row keeps its leading `=`. -/
theorem startsWith_retargetFormula {formula moved : String} {row : Nat} {shift : Int}
    (h : formula.startsWith "=" = true) (hmoved : retargetFormula formula row shift = .ok moved) :
    moved.startsWith "=" = true := by
  obtain ⟨rest, hrest⟩ := startsWith_equals_iff.1 h
  obtain ⟨pieces, hpieces⟩ := piecesOf_equals_cons rest
  rw [retargetFormula, editReferences, hrest, hpieces, mapM_edit_char_cons] at hmoved
  cases hparts : pieces.mapM (Piece.edit fun r : Reference =>
      (r.retarget row shift).map fun moved => some moved.text) with
  | error e => rw [hparts] at hmoved; cases hmoved
  | ok parts =>
    rw [hparts] at hmoved
    obtain rfl := Except.ok.inj hmoved
    exact startsWith_equals_iff.2 ⟨parts.flatten, String.toList_ofList⟩

/-! ## Formulas of a template -/

namespace Worksheet.FormulasMarked

variable {w : Worksheet}

/-- Changing the cell at one place keeps the formulas of the others. -/
theorem update (h : w.FormulasMarked) (place : Coord) {f : Cell → Cell}
    (hf : ∀ cell, (∀ formula, cell.formula = some formula → formula.startsWith "=" = true) →
      ∀ formula, (f cell).formula = some formula → formula.startsWith "=" = true) :
    FormulasMarked { w with grid := w.grid.update place f } := by
  intro p formula hformula
  rw [formula?, cell?, Grid.update, Grid.get?_set] at hformula
  split at hformula
  · refine hf _ (fun formula₀ hcell => ?_) formula hformula
    cases hget : w.grid.get? place with
    | none => rw [hget] at hcell; cases hcell
    | some cell =>
      rw [hget] at hcell
      exact h place formula₀ (Option.bind_eq_some_iff.2 ⟨cell, hget, hcell⟩)
  · exact h p formula hformula

theorem setValue (h : w.FormulasMarked) (place : Coord) (value : CellValue) :
    (w.setValue place value).FormulasMarked :=
  h.update place fun _ _ _ hformula => nomatch hformula

theorem setStyle (h : w.FormulasMarked) (place : Coord) (style : Nat) :
    (w.setStyle place style).FormulasMarked :=
  h.update place fun _ hcell => hcell

theorem withFormula (h : w.FormulasMarked) (place : Coord) (formula : String) :
    FormulasMarked { w with grid := Package.withFormula w.grid place formula } :=
  h.update place fun _ _ formula' hformula => by
    obtain rfl := Option.some.inj hformula
    exact startsWith_equals_append formula

end Worksheet.FormulasMarked

namespace Package

theorem formulasMarked_sheetWithCells (name : String) (values : List (Coord × CellValue))
    (formulas : List (Coord × String)) :
    (sheetWithCells name values formulas).FormulasMarked := by
  have hempty : Worksheet.FormulasMarked { name } := nofun
  unfold sheetWithCells
  dsimp only
  generalize hvalued : List.foldl _ _ values = valued
  have hmarked : valued.FormulasMarked := by
    rw [← hvalued]
    exact List.foldlRecOn values _ hempty fun w hw value _ =>
      Worksheet.FormulasMarked.setValue hw value.1 value.2
  exact List.foldlRecOn (motive := fun g => Worksheet.FormulasMarked { valued with grid := g })
    formulas _ hmarked fun g hg formula _ => hg.withFormula formula.1 formula.2

theorem formulasMarked_withLayout {w : Worksheet} (h : w.FormulasMarked) (styles : StyleRegistry)
    (layout : SheetLayout) : (w.withLayout styles layout).FormulasMarked := by
  refine List.foldlRecOn layout.styles.toList _ h fun w hw entry _ => ?_
  dsimp only
  split
  · exact Worksheet.FormulasMarked.setStyle hw _ _
  · exact hw

/-- The formulas of a sheet that was read from a package begin with `=`. -/
theorem formulasMarked_of_loadSheet {p : Package} {texts : Array String} {entries : List SheetEntry}
    {parts : List (String × String)} {styles : StyleRegistry} {entry : SheetEntry} {w : Worksheet}
    (h : p.loadSheet texts entries parts styles entry = .ok w) : w.FormulasMarked := by
  obtain ⟨markup, -, h⟩ := exists_of_bind_eq_ok h
  obtain ⟨values, -, h⟩ := exists_of_bind_eq_ok h
  obtain ⟨formulas, -, h⟩ := exists_of_bind_eq_ok h
  have hread := formulasMarked_sheetWithCells entry.name values formulas
  split at h
  · split at h
    · obtain rfl := Except.ok.inj h
      exact hread
    · obtain ⟨layout, -, h⟩ := exists_of_bind_eq_ok h
      obtain rfl := Except.ok.inj h
      exact formulasMarked_withLayout hread styles _
  · cases h

end Package

namespace Renderer

variable {r : Renderer} {data : Json} {w w' : Worksheet}

theorem formulasMarked_of_renderCells {row col : Nat} {cells : List String}
    (hw : w.FormulasMarked) (h : r.renderCells data row col cells w = .ok w') :
    w'.FormulasMarked := by
  induction cells generalizing col w with
  | nil =>
    obtain rfl := Except.ok.inj h
    exact hw
  | cons text cells ih =>
    rw [renderCells] at h
    split at h
    · obtain ⟨rendered, -, h⟩ := exists_of_bind_eq_ok h
      exact ih (hw.setValue _ _) h
    · exact ih hw h

/-- Rendering the texts of a template leaves formulas that begin with `=`. -/
theorem formulasMarked_of_renderTexts {row : Nat} {rows : List (List String)}
    (hw : w.FormulasMarked) (h : r.renderTexts data row rows w = .ok w') : w'.FormulasMarked := by
  induction rows generalizing row w with
  | nil =>
    obtain rfl := Except.ok.inj h
    exact hw
  | cons cells rows ih =>
    rw [renderTexts] at h
    split at h
    · exact ih hw h
    · obtain ⟨sheet, hsheet, h⟩ := exists_of_bind_eq_ok h
      exact ih (formulasMarked_of_renderCells hw hsheet) h

end Renderer

/-! ## Formulas of records -/

namespace Record

theorem formulasMarked_of_fields_empty (kind : RowKind) (sample : Option Nat) :
    FormulasMarked { kind, sample } := by
  intro name formula h
  rw [field?, Std.ExtTreeMap.getElem?_empty] at h
  cases h

theorem FormulasMarked.withField {record : Record} (h : record.FormulasMarked) (name : String)
    {value : FieldValue}
    (hvalue : ∀ formula, value = .formula formula → formula.startsWith "=" = true) :
    (record.withField name value).FormulasMarked := by
  intro other formula hformula
  rw [field?_withField] at hformula
  split at hformula
  · exact hvalue formula (Option.some.inj hformula)
  · exact h other formula hformula

end Record

/-- A text that is taken as a formula begins with `=`. -/
theorem FieldValue.startsWith_of_ofText {text formula : String} (h : ofText text = .formula formula) :
    formula.startsWith "=" = true := by
  unfold ofText at h
  split at h
  · next htext =>
    obtain rfl := FieldValue.formula.inj h
    exact (Bool.and_eq_true_iff.1 htext).2
  · cases h

theorem FieldValue.startsWith_of_ofJson? {value : Json} {formula : String}
    (h : ofJson? value = some (.formula formula)) : formula.startsWith "=" = true := by
  unfold ofJson? at h
  split at h <;> first | exact startsWith_of_ofText (Option.some.inj h) | cases h

namespace Record

theorem FormulasMarked.addMember {record record' : Record} (hrecord : record.FormulasMarked)
    {name : String} {value : Json} (h : record.addMember name value = .ok record') :
    record'.FormulasMarked := by
  unfold Record.addMember at h
  split at h
  · split at h
    · obtain rfl := Except.ok.inj h
      split
      · exact hrecord
      · exact hrecord
    · obtain rfl := Except.ok.inj h
      exact hrecord
  · split at h
    · split at h
      · obtain rfl := Except.ok.inj h
        exact hrecord
      · obtain rfl := Except.ok.inj h
        exact hrecord
      · cases h
    · split at h
      · next field hfield =>
        obtain rfl := Except.ok.inj h
        refine hrecord.withField name fun formula hformula => ?_
        rw [hformula] at hfield
        exact FieldValue.startsWith_of_ofJson? hfield
      · obtain rfl := Except.ok.inj h
        exact hrecord

theorem formulasMarked_of_ofJson {index : Nat} {value : Json} {record : Record}
    (h : ofJson index value = .ok record) : record.FormulasMarked := by
  unfold ofJson at h
  split at h
  · split at h
    · next hfold =>
      obtain rfl := Except.ok.inj h
      exact invariant_of_foldlM_eq_ok (fun hr hmember => FormulasMarked.addMember hr hmember)
        (formulasMarked_of_fields_empty .data none) hfold
    · cases h
  · cases h

theorem formulasMarked_of_ofJsonFrom {index : Nat} {items : List Json} {records : List Record}
    (h : ofJsonFrom index items = .ok records) : ∀ record ∈ records, record.FormulasMarked := by
  induction items generalizing index records with
  | nil =>
    obtain rfl := Except.ok.inj h
    exact fun _ hmem => absurd hmem List.not_mem_nil
  | cons item items ih =>
    obtain ⟨first, hfirst, h⟩ := exists_of_bind_eq_ok h
    obtain ⟨rest, hrest, h⟩ := exists_of_bind_eq_ok h
    obtain rfl := Except.ok.inj h
    exact List.forall_mem_cons.2 ⟨formulasMarked_of_ofJson hfirst, ih hrest⟩

end Record

/-- The formulas of records that are given as data begin with `=`. -/
theorem formulasMarked_of_recordsOf {data : Json} {listField : String} {records : List Record}
    (h : recordsOf data listField = .ok records) : ∀ record ∈ records, record.FormulasMarked := by
  unfold recordsOf at h
  split at h
  · exact Record.formulasMarked_of_ofJsonFrom h
  · obtain rfl := Except.ok.inj h
    exact fun _ hmem => absurd hmem List.not_mem_nil

namespace Subtotal

variable {records : List Record}

theorem formulasMarked_summary (s : Subtotal) (label : String) (first last : Nat) :
    (s.summary label first last).FormulasMarked := by
  have hlabel : ∀ formula, FieldValue.text label = .formula formula →
      formula.startsWith "=" = true := fun _ h => by cases h
  refine ((Record.formulasMarked_of_fields_empty .subtotal none).withField _ hlabel).withField _
    fun formula h => ?_
  obtain rfl := FieldValue.formula.inj h
  refine startsWith_equals_iff.2 ?_
  -- making the equation of `formula` would compare the texts character by character
  delta Subtotal.formula
  simp

theorem formulasMarked_groupRows (s : Subtotal) (row : Nat) {groups : List (String × List Record)}
    (h : ∀ group ∈ groups, ∀ record ∈ group.2, record.FormulasMarked) :
    ∀ record ∈ s.groupRows row groups, record.FormulasMarked := by
  induction groups generalizing row with
  | nil => exact fun _ hmem => absurd hmem List.not_mem_nil
  | cons group groups ih =>
    obtain ⟨hgroup, hgroups⟩ := List.forall_mem_cons.1 h
    rw [groupRows]
    intro record hrecord
    rcases List.mem_append.1 hrecord with hmember | hrest
    · obtain ⟨member, hmem, i, rfl⟩ := mem_numberSamples hmember
      exact fun name => hgroup member hmem name
    · rcases List.mem_cons.1 hrest with rfl | hrest
      · exact s.formulasMarked_summary _ _ _
      · exact ih _ hgroups record hrest

theorem formulasMarked_apply (s : Subtotal) (row : Nat)
    (h : ∀ record ∈ records, record.FormulasMarked) :
    ∀ record ∈ s.apply row records, record.FormulasMarked := by
  unfold Subtotal.apply
  split
  · exact fun _ hmem => absurd hmem List.not_mem_nil
  · have hgroups : ∀ group ∈ groupsOf s.groupField records, ∀ record ∈ group.2,
        record.FormulasMarked := fun _ hgroup record hrecord =>
      h record (mem_of_mem_groupsOf hgroup hrecord)
    exact List.forall_mem_append.2 ⟨s.formulasMarked_groupRows row hgroups,
      List.forall_mem_singleton.2 (s.formulasMarked_summary _ _ _)⟩

end Subtotal

/-- Subtotals are put in with formulas that begin with `=`. -/
theorem formulasMarked_of_applySubtotals (subtotals : List Subtotal) (row : Nat)
    {records : List Record} (h : ∀ record ∈ records, record.FormulasMarked) :
    ∀ record ∈ applySubtotals subtotals row records, record.FormulasMarked := by
  induction subtotals generalizing records with
  | nil => exact h
  | cons s subtotals ih => exact ih (s.formulasMarked_apply row h)

end SheetPress
