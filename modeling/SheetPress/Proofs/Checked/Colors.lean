import Mathlib
import SheetPress.Proofs.Checked.Evaluation
import SheetPress.Proofs.Template.NamedFields
import SheetPress.Template.ColorRules

/-!
# Colors in checked arithmetic

A color rule is evaluated over a record on a grid of its own, with one row for each name.  What stops
its evaluation is in the rule and the record: more names than rows are counted to, a column whose
letters are too many, or a text that `MID` takes from a place that is not a number.

* `RuleStops` — why the evaluation of a rule over a record stops.
* `checkedEvaluateExpression_follows` — the evaluation of a rule stops for no other reason.
* `StyleResolver.checkedResolve_follows` — the same for the style of a cell.
-/

namespace SheetPress

/-! ## Expressions over records -/

/-- The number of rows that names take, one after another. -/
def checkedRowCount (names : List String) : Checked Nat :=
  names.foldlM (fun rows _ => plus rows 1) 0

/-- The outcome of a formula that is bound to a grid. -/
def checkedEvaluateBound (scratch : Grid) (bound : String) :
    Checked (Except ExpressionFault Evaluation) :=
  match parseFormula bound with
  | .error e => pure (.error (.malformed e))
  | .ok e => do
    match ← e.checkedEval (.single scratch) with
    | .error code => return .error (.error code)
    | raw => return .ok ⟨raw.asText, raw⟩

/-- What an expression evaluates to over a record. -/
def checkedEvaluateExpression (expression : String) (record : Record) :
    Checked (Except TemplateError Evaluation) := do
  let names := boundNames expression record
  let _ ← checkedRowCount names
  let outcome ← checkedEvaluateBound record.scratch (bindNames names expression)
  return outcome.mapError (.expression expression)

/-- Why the evaluation of a rule over a record stops. -/
inductive RuleStops (rule : String) (record : Record) : Stop → Prop
  /-- There are more names than rows are counted to. -/
  | names {a b : Nat} (h : indexLimit ≤ (boundNames rule record).length) :
      RuleStops rule record (.above a b)
  /-- The letters of a column are too many for an index. -/
  | column {e r : Expr} {column : String} {a b : Nat}
      (hparse : parseFormula (bindNames (boundNames rule record) rule) = .ok e)
      (hr : r ∈ e.references) (hcolumn : column ∈ r.columnTexts)
      (hvalue : indexLimit ≤ lettersValue column.toList) : RuleStops rule record (.above a b)
  /-- The place where `MID` starts is not a number. -/
  | start {e start : Expr} {x : Float}
      (hparse : parseFormula (bindNames (boundNames rule record) rule) = .ok e)
      (hstart : start ∈ e.midStarts)
      (hx : (start.eval (.single record.scratch)).asNumber? = some x) (hnan : x.isNaN = true) :
      RuleStops rule record (.below 0 1)

theorem checkedRowCount_follows (names : List String) :
    Checked.Follows (fun stop => indexLimit ≤ names.length ∧ ∃ a b, stop = .above a b)
      (checkedRowCount names) (pure names.length) := by
  have hcount : ∀ (names : List String) (rows : Nat),
      Checked.Follows
        (fun stop => indexLimit ≤ rows + names.length ∧ ∃ a b, stop = .above a b)
        (names.foldlM (fun rows _ => plus rows 1) rows) (pure (rows + names.length)) := by
    intro names
    induction names with
    | nil => exact fun rows => .refl _
    | cons name names ih =>
      intro rows
      rw [List.foldlM_cons, List.length_cons, ← Nat.add_assoc, Nat.add_right_comm]
      by_cases hroom : rows + 1 < indexLimit
      · rw [plus_eq hroom]
        exact ih (rows + 1)
      · rw [plus, plusBelow, if_neg hroom]
        exact .inr ⟨_, ⟨by omega, rows, 1, rfl⟩, rfl⟩
  rw [checkedRowCount, ← Nat.zero_add names.length]
  exact hcount names 0

theorem checkedEvaluateBound_follows (rule : String) (record : Record) :
    Checked.Follows (RuleStops rule record)
      (checkedEvaluateBound record.scratch (bindNames (boundNames rule record) rule))
      (pure (evaluateBound record.scratch (bindNames (boundNames rule record) rule))) := by
  unfold checkedEvaluateBound evaluateBound
  cases hparse : parseFormula (bindNames (boundNames rule record) rule) with
  | error e => exact .refl _
  | ok e =>
    have heval : Checked.Follows (RuleStops rule record) (e.checkedEval (.single record.scratch))
        (pure (e.eval (.single record.scratch))) := by
      refine (Expr.checkedEval_follows (.single record.scratch) e).mono fun stop hstop => ?_
      cases hstop with
      | column hr hcolumn hstop =>
        have hletters := Expr.isAsciiLetter_of_parseFormula hparse hr hcolumn
        obtain ⟨hvalue, a, b, rfl⟩ := checkedColumnIndex_eq_error hletters hstop
        exact .column hparse hr hcolumn hvalue
      | mid hstart hx hnan => exact .start hparse hstart hx hnan
    refine heval.bind_pure ?_
    dsimp only
    cases e.eval (.single record.scratch) <;> exact .refl _

/-- An expression over a record has the outcome that it has in any arithmetic, unless it stops. -/
theorem checkedEvaluateExpression_follows (rule : String) (record : Record) :
    Checked.Follows (RuleStops rule record) (checkedEvaluateExpression rule record)
      (pure (evaluateExpression rule record)) := by
  have hrows : Checked.Follows (RuleStops rule record)
      (checkedRowCount (boundNames rule record)) (pure (boundNames rule record).length) := by
    refine (checkedRowCount_follows _).mono fun stop ⟨hnames, a, b, hstop⟩ => ?_
    rw [hstop]
    exact .names hnames
  exact hrows.bind_pure ((checkedEvaluateBound_follows rule record).map rfl)

/-- A rule that names a column with ten letters. -/
example : (checkedEvaluateExpression "=$ABCDEFGHIJ$1" {}).map (fun _ => ()) =
    .error (.above 8687205878 8) := by
  decide +kernel

/-! ## Styles -/

/-- The color rules of a column that are formulas. -/
def TableColumn.colorFormulas (column : TableColumn) : List String :=
  (column.backgroundColor.toList ++ column.fontColor.toList).filter (·.startsWith "=")

namespace StyleResolver

/-- The text that a rule gives for a record. -/
def checkedTextOf (r : StyleResolver) (rule : String) (position : Nat) (record : Record) :
    Checked (Except TemplateError String × StyleResolver) :=
  match r.texts[RuleUse.mk position rule]? with
  | some text => pure (.ok text, r)
  | none => do
    match ← checkedEvaluateExpression rule record with
    | .ok outcome =>
      return (.ok outcome.text, { r with texts := r.texts.insert ⟨position, rule⟩ outcome.text })
    | .error e => return (.error e, r)

/-- The color that a rule gives for a record. -/
def checkedColorOf (r : StyleResolver) (rule : Option String) (position : Nat) (record : Record) :
    Checked (Except TemplateError (Option Color) × StyleResolver) :=
  match rule with
  | none => pure (.ok none, r)
  | some rule =>
    if rule.startsWith "=" then do
      match ← r.checkedTextOf rule position record with
      | (.ok text, r) => return (colorOfText rule text, r)
      | (.error e, r) => return (.error e, r)
    else
      let (color, r) := r.literalOf rule
      pure (.ok color, r)

/-- The number of the style of a cell. -/
def checkedResolve (r : StyleResolver) (column : TableColumn) (base position : Nat)
    (record : Record) (registry : StyleRegistry) :
    Checked (Except TemplateError Nat × StyleResolver × StyleRegistry) := do
  match ← r.checkedColorOf column.backgroundColor position record with
  | (.error e, r) => return (.error e, r, registry)
  | (.ok background, r) =>
    match ← r.checkedColorOf column.fontColor position record with
    | (.error e, r) => return (.error e, r, registry)
    | (.ok font, r) =>
      if background.isNone && font.isNone then return (.ok base, r, registry)
      else
        let (id, r, registry) := r.styleFor ⟨base, background, font⟩ registry
        return (.ok id, r, registry)

variable (r : StyleResolver) (position : Nat) (record : Record)

theorem checkedTextOf_follows (rule : String) :
    Checked.Follows (RuleStops rule record) (r.checkedTextOf rule position record)
      (pure (r.textOf rule position record)) := by
  unfold checkedTextOf textOf
  cases r.texts[RuleUse.mk position rule]? with
  | some text => exact .refl _
  | none =>
    refine (checkedEvaluateExpression_follows rule record).bind_pure ?_
    cases evaluateExpression rule record <;> exact .refl _

theorem checkedColorOf_follows (rule : Option String) :
    Checked.Follows
      (fun stop => ∃ text ∈ rule, text.startsWith "=" = true ∧ RuleStops text record stop)
      (r.checkedColorOf rule position record) (pure (r.colorOf rule position record)) := by
  cases rule with
  | none => exact .refl _
  | some rule =>
    unfold checkedColorOf colorOf
    dsimp only
    split
    · next hformula =>
      have htext := (checkedTextOf_follows r position record rule).mono fun stop hstop =>
        (⟨rule, rfl, hformula, hstop⟩ :
          ∃ text ∈ some rule, text.startsWith "=" = true ∧ RuleStops text record stop)
      refine htext.bind_pure ?_
      rcases r.textOf rule position record with ⟨text, r⟩
      cases text <;> exact .refl _
    · exact .refl _

/-- A cell has the style that it has in any arithmetic, unless a color rule of its column stops. -/
theorem checkedResolve_follows (column : TableColumn) (base : Nat) (registry : StyleRegistry) :
    Checked.Follows (fun stop => ∃ rule ∈ column.colorFormulas, RuleStops rule record stop)
      (r.checkedResolve column base position record registry)
      (pure (r.resolve column base position record registry)) := by
  have hcolor : ∀ (r : StyleResolver) (rule : Option String),
      (∀ text ∈ rule, text ∈ column.backgroundColor.toList ++ column.fontColor.toList) →
      Checked.Follows (fun stop => ∃ rule ∈ column.colorFormulas, RuleStops rule record stop)
        (r.checkedColorOf rule position record) (pure (r.colorOf rule position record)) := by
    refine fun r rule hrule => (checkedColorOf_follows r position record rule).mono ?_
    rintro stop ⟨text, htext, hformula, hstop⟩
    exact ⟨text, List.mem_filter.2 ⟨hrule text htext, hformula⟩, hstop⟩
  unfold checkedResolve resolve
  refine (hcolor r _ fun text h => List.mem_append_left _ (Option.mem_toList.2 h)).bind_pure ?_
  rcases r.colorOf column.backgroundColor position record with ⟨background, r⟩
  cases background with
  | error e => exact .refl _
  | ok background =>
    dsimp only
    refine (hcolor r _ fun text h => List.mem_append_right _ (Option.mem_toList.2 h)).bind_pure ?_
    rcases r.colorOf column.fontColor position record with ⟨font, r⟩
    cases font with
    | error e => exact .refl _
    | ok font =>
      dsimp only
      split <;> exact .refl _

end StyleResolver

/-- Why the colors of a table stop: a rule of one of its columns does, over a record that is no
summary. -/
def ColorsStop (columns : List TableColumn) (records : List Record) (stop : Stop) : Prop :=
  ∃ column ∈ columns, ∃ rule ∈ column.colorFormulas, ∃ record ∈ records,
    record.isSubtotal = false ∧ RuleStops rule record stop

/-- More columns and more records stop for the same reasons, and for more. -/
theorem ColorsStop.mono {columns columns' : List TableColumn} {records records' : List Record}
    {stop : Stop} (h : ColorsStop columns records stop) (hcolumns : columns ⊆ columns')
    (hrecords : records ⊆ records') : ColorsStop columns' records' stop := by
  obtain ⟨column, hcolumn, rule, hrule, record, hrecord, hstop⟩ := h
  exact ⟨column, hcolumns hcolumn, rule, hrule, record, hrecords hrecord, hstop⟩

end SheetPress
