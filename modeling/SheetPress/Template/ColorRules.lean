import SheetPress.Style.Registry
import SheetPress.Template.Expression
import SheetPress.Template.Table

/-!
# Color rules

A column can say how its cells are colored, by a color or by a formula over the record. The style of
a cell is the style of its sample with these colors. What a formula gave for a record, which color a
rule is and which style was made for which colors are remembered while a table is written.
-/

namespace SheetPress

/-- A rule as it is used for the record at a position of the list. -/
structure RuleUse where
  position : Nat
  rule : String
  deriving DecidableEq, Repr

instance : Ord RuleUse where
  compare a b := (compare a.position b.position).then (compare a.rule b.rule)

theorem RuleUse.compare_def (a b : RuleUse) :
    compare a b = (compare a.position b.position).then (compare a.rule b.rule) := rfl

instance : Std.LawfulEqOrd RuleUse where
  compare_self := by simp [RuleUse.compare_def]
  eq_of_compare {a b} h := by
    obtain ⟨h₁, h₂⟩ := Ordering.then_eq_eq.mp h
    cases a; cases b
    simp_all

instance : Std.TransOrd RuleUse :=
  inferInstanceAs
    (Std.TransCmp (compareLex (compareOn RuleUse.position) (compareOn RuleUse.rule)))

/-- What a style is made from: the style of a sample, and the colors of background and font. -/
structure Coloring where
  base : Nat
  background : Option Color
  font : Option Color
  deriving DecidableEq, Repr

/-- What is remembered while a table is written: the texts that rules gave, the colors that were
read and the styles that were made. -/
structure StyleResolver where
  texts : Std.ExtTreeMap RuleUse String := ∅
  /-- The rules that are no formulas, with the color that each of them is. -/
  literals : Std.ExtTreeMap String (Option Color) := ∅
  styles : List (Coloring × Nat) := []

/-- A style in other colors; where there is no color it stays as it is. -/
def CellStyle.recolor (style : CellStyle) (background font : Option Color) : CellStyle :=
  { style with
    fill := (background.map Fill.solid).getD style.fill
    font := { style.font with color := font.or style.font.color } }

/-- The color in the text that a rule gave; a blank text is no color. -/
def colorOfText (rule text : String) : Except TemplateError (Option Color) :=
  let trimmed := trimText text
  if trimmed.isEmpty then .ok none
  else
    match Color.ofHex? trimmed with
    | some color => .ok (some color)
    | none => .error (.expression rule (.noColor trimmed))

namespace StyleResolver

/-- The text that a rule gives for a record, remembered by position. -/
def textOf (r : StyleResolver) (rule : String) (position : Nat) (record : Record) :
    Except TemplateError String × StyleResolver :=
  match r.texts[RuleUse.mk position rule]? with
  | some text => (.ok text, r)
  | none =>
    match evaluateExpression rule record with
    | .ok outcome =>
      (.ok outcome.text, { r with texts := r.texts.insert ⟨position, rule⟩ outcome.text })
    | .error e => (.error e, r)

/-- The color that a rule without a formula is, remembered by its spelling. -/
def literalOf (r : StyleResolver) (rule : String) : Option Color × StyleResolver :=
  match r.literals[rule]? with
  | some color => (color, r)
  | none => (Color.ofHex? rule, { r with literals := r.literals.insert rule (Color.ofHex? rule) })

/-- The color that a rule gives for a record. A rule that is no formula is a color itself, and is
passed over if it is none. -/
def colorOf (r : StyleResolver) (rule : Option String) (position : Nat) (record : Record) :
    Except TemplateError (Option Color) × StyleResolver :=
  match rule with
  | none => (.ok none, r)
  | some rule =>
    if rule.startsWith "=" then
      match r.textOf rule position record with
      | (.ok text, r) => (colorOfText rule text, r)
      | (.error e, r) => (.error e, r)
    else
      let (color, r) := r.literalOf rule
      (.ok color, r)

/-- The number of the style for a coloring, which is registered first if it is new. -/
def styleFor (r : StyleResolver) (key : Coloring) (registry : StyleRegistry) :
    Nat × StyleResolver × StyleRegistry :=
  match r.styles.lookup key with
  | some id => (id, r, registry)
  | none =>
    let style := (registry.get key.base).recolor key.background key.font
    let (id, registry) := registry.getOrCreate style
    (id, { r with styles := (key, id) :: r.styles }, registry)

/-- The number of the style of a cell in a column with a sample in style `base`, on the row of the
record at a position. Without colors it is the style of the sample. -/
def resolve (r : StyleResolver) (column : TableColumn) (base position : Nat) (record : Record)
    (registry : StyleRegistry) : Except TemplateError Nat × StyleResolver × StyleRegistry :=
  match r.colorOf column.backgroundColor position record with
  | (.error e, r) => (.error e, r, registry)
  | (.ok background, r) =>
    match r.colorOf column.fontColor position record with
    | (.error e, r) => (.error e, r, registry)
    | (.ok font, r) =>
      if background.isNone && font.isNone then (.ok base, r, registry)
      else
        let (id, r, registry) := r.styleFor ⟨base, background, font⟩ registry
        (.ok id, r, registry)

end StyleResolver

end SheetPress
