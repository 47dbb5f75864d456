import Mathlib
import SheetPress.Template.ColorRules

/-!
# Styles of the cells of a table

The resolver of a table remembers texts that color rules gave, colors that it read and styles that it
made.  What it remembers is what it would find again, so the style of a cell is settled by its sample,
its column and its record: `ResolvedStyle` says how.

* `StyleResolver.RemembersRules.resolve` — what is remembered of rules makes no difference.
* `StyleResolver.Remembers.resolve` — a style that is resolved obeys `ResolvedStyle`, and the
  resolver goes on to remember only what is so.
-/

namespace SheetPress

/-! ## Registries that grow -/

/-- A registry after styles were looked up in it, and registered where they were new. -/
def StyleRegistry.Grows : StyleRegistry → StyleRegistry → Prop :=
  Relation.ReflTransGen fun r r' => ∃ style, r' = (r.getOrCreate style).2

/-- Every number in the reverse lookup is that of its style. -/
def StyleRegistry.Coherent (r : StyleRegistry) : Prop :=
  ∀ style id, r.number? style = some id → r.styles[id]? = some style

namespace StyleRegistry

variable {r r' : StyleRegistry}

theorem grows_getOrCreate (r : StyleRegistry) (style : CellStyle) :
    r.Grows (r.getOrCreate style).2 := .single ⟨style, rfl⟩

theorem getElem?_getOrCreate {style style' : CellStyle} {id : Nat}
    (h : r.styles[id]? = some style') : (r.getOrCreate style).2.styles[id]? = some style' := by
  unfold getOrCreate
  split
  · exact h
  · obtain ⟨hlt, -⟩ := Array.getElem?_eq_some_iff.1 h
    dsimp only
    rw [Array.getElem?_push, if_neg hlt.ne, h]

/-- A number keeps its style while a registry grows. -/
theorem Grows.getElem? (h : r.Grows r') {style : CellStyle} {id : Nat}
    (hid : r.styles[id]? = some style) : r'.styles[id]? = some style := by
  induction h with
  | refl => exact hid
  | tail _ hstep ih =>
    obtain ⟨style', rfl⟩ := hstep
    exact getElem?_getOrCreate ih

theorem Coherent.getElem?_getOrCreate (h : r.Coherent) (style : CellStyle) :
    (r.getOrCreate style).2.styles[(r.getOrCreate style).1]? = some style := by
  unfold getOrCreate
  split
  · next id hid => exact h style id hid
  · exact Array.getElem?_push_size

theorem Coherent.getOrCreate (h : r.Coherent) (style : CellStyle) :
    (r.getOrCreate style).2.Coherent := by
  intro style' id hid
  by_cases hnew : r.number? style' = some id
  · exact StyleRegistry.getElem?_getOrCreate (h style' id hnew)
  · have hfound := h.getElem?_getOrCreate style
    unfold StyleRegistry.getOrCreate at hid hfound ⊢
    split at hid
    · exact absurd hid hnew
    · next hnone =>
      rw [hnone] at hfound
      rw [number?, List.lookup_cons] at hid
      split at hid
      · next heq =>
        obtain rfl := eq_of_beq heq
        obtain rfl := Option.some.inj hid
        exact hfound
      · exact absurd hid hnew

theorem Grows.coherent (h : r.Grows r') (hr : r.Coherent) : r'.Coherent := by
  induction h with
  | refl => exact hr
  | tail _ hstep ih =>
    obtain ⟨style, rfl⟩ := hstep
    exact ih.getOrCreate style

end StyleRegistry

/-! ## What the style of a cell is -/

/-- The color that a rule gives for a record. -/
def ruleColor (rule : Option String) (record : Record) : Except TemplateError (Option Color) :=
  match rule with
  | none => .ok none
  | some rule =>
    if rule.startsWith "=" then
      match evaluateExpression rule record with
      | .ok outcome => colorOfText rule outcome.text
      | .error e => .error e
    else .ok (Color.ofHex? rule)

/-- A style in other colors: background and font have the colors that are given, or those that they had
where none is given, and all else is as it was. -/
structure CellStyle.Colored (style : CellStyle) (background font : Option Color)
    (colored : CellStyle) : Prop where
  fill : ∀ color, background = some color → colored.fill = .solid color
  fill_none : background = none → colored.fill = style.fill
  fontColor : ∀ color, font = some color → colored.font.color = some color
  fontColor_none : font = none → colored.font.color = style.font.color
  others : { colored with
    fill := style.fill, font := { colored.font with color := style.font.color } } = style

theorem CellStyle.colored_recolor (style : CellStyle) (background font : Option Color) :
    style.Colored background font (style.recolor background font) where
  fill color h := by rw [h]; rfl
  fill_none h := by rw [h]; rfl
  fontColor color h := by rw [h]; rfl
  fontColor_none h := by rw [h]; rfl
  others := rfl

theorem CellStyle.Colored.eq {style colored : CellStyle} {background font : Option Color}
    (h : style.Colored background font colored) : colored = { style with
      fill := colored.fill, font := { style.font with color := colored.font.color } } := by
  conv_rhs => rw [← h.others]

/-- A number stands for a coloring: when the colored style was looked up on the way from the first
registry to the last, it was found under this number or registered with it. -/
def RegisteredAs (first last : StyleRegistry) (key : Coloring) (id : Nat) : Prop :=
  ∃ current, first.Grows current ∧
    (current.getOrCreate ((current.get key.base).recolor key.background key.font)).2.Grows last ∧
    (current.getOrCreate ((current.get key.base).recolor key.background key.font)).1 = id

/-- The style of the cell of a record in a column, for a sample in style `base`: that of the sample,
unless the rules of the column give colors. -/
def ResolvedStyle (first last : StyleRegistry) (column : TableColumn) (base : Nat) (record : Record)
    (id : Nat) : Prop :=
  ∃ background font, ruleColor column.backgroundColor record = .ok background ∧
    ruleColor column.fontColor record = .ok font ∧
    if background.isNone && font.isNone then id = base
    else RegisteredAs first last ⟨base, background, font⟩ id

theorem RegisteredAs.mono {first last last' : StyleRegistry} {key : Coloring} {id : Nat}
    (h : RegisteredAs first last key id) (hlast : last.Grows last') :
    RegisteredAs first last' key id := by
  obtain ⟨current, hfirst, hcurrent, hid⟩ := h
  exact ⟨current, hfirst, hcurrent.trans hlast, hid⟩

theorem ResolvedStyle.mono {first last last' : StyleRegistry} {column : TableColumn} {base : Nat}
    {record : Record} {id : Nat} (h : ResolvedStyle first last column base record id)
    (hlast : last.Grows last') : ResolvedStyle first last' column base record id := by
  obtain ⟨background, font, hbackground, hfont, hid⟩ := h
  refine ⟨background, font, hbackground, hfont, ?_⟩
  split at hid
  · next hnone => rwa [if_pos hnone]
  · next hcolor =>
    rw [if_neg hcolor]
    exact hid.mono hlast

/-- Numbers stand for the styles that they were made for: a number for a coloring is that of the base
style in its colors. -/
theorem RegisteredAs.exists_colored {first last : StyleRegistry} {key : Coloring} {id : Nat}
    (h : RegisteredAs first last key id) (hfirst : first.Coherent) {style : CellStyle}
    (hbase : first.styles[key.base]? = some style) :
    ∃ colored, last.styles[id]? = some colored ∧ style.Colored key.background key.font colored := by
  obtain ⟨current, hgrown, hlast, rfl⟩ := h
  have hget : current.get key.base = style := by
    rw [StyleRegistry.get, hgrown.getElem? hbase, Option.getD_some]
  refine ⟨_, hlast.getElem? ?_, style.colored_recolor key.background key.font⟩
  rw [hget]
  exact (hgrown.coherent hfirst).getElem?_getOrCreate _

/-- The coloring that the rules of a column give the cell of a record, for a sample in style `base`. -/
def coloringOf (column : TableColumn) (base : Nat) (record : Record) :
    Except TemplateError Coloring := do
  let background ← ruleColor column.backgroundColor record
  let font ← ruleColor column.fontColor record
  return ⟨base, background, font⟩

/-- A coloring without colors, which leaves a style as it is. -/
def Coloring.isPlain (key : Coloring) : Bool := key.background.isNone && key.font.isNone

theorem coloringOf_eq_ok {column : TableColumn} {base : Nat} {record : Record} {key : Coloring}
    (h : coloringOf column base record = .ok key) :
    key.base = base ∧ ruleColor column.backgroundColor record = .ok key.background ∧
      ruleColor column.fontColor record = .ok key.font := by
  unfold coloringOf at h
  cases hbackground : ruleColor column.backgroundColor record with
  | error e => rw [hbackground] at h; cases h
  | ok background =>
    rw [hbackground] at h
    cases hfont : ruleColor column.fontColor record with
    | error e => rw [hfont] at h; cases h
    | ok font =>
      rw [hfont] at h
      obtain rfl := Except.ok.inj h
      exact ⟨rfl, rfl, rfl⟩

/-! ## What the resolver remembers -/

namespace StyleResolver

/-- Remembered texts and colors are those that the rules give, where `records` tells the record at a
position. -/
structure RemembersRules (records : Nat → Option Record) (r : StyleResolver) : Prop where
  texts : ∀ position rule text, r.texts[RuleUse.mk position rule]? = some text →
    ∃ record outcome, records position = some record ∧
      evaluateExpression rule record = .ok outcome ∧ outcome.text = text
  literals : ∀ rule color, r.literals[rule]? = some color → Color.ofHex? rule = color

section Rules

variable {records : Nat → Option Record} {r : StyleResolver} {position : Nat} {record : Record}

theorem remembersRules_init (records : Nat → Option Record) : RemembersRules records {} where
  texts position rule text h := by
    rw [Std.ExtTreeMap.getElem?_empty] at h
    cases h
  literals rule color h := by
    rw [Std.ExtTreeMap.getElem?_empty] at h
    cases h

/-- The text of a rule is what the rule gives, remembered or not. -/
theorem RemembersRules.textOf (h : r.RemembersRules records)
    (hrecord : records position = some record) (rule : String) :
    (r.textOf rule position record).1 = (evaluateExpression rule record).map (·.text) ∧
      (r.textOf rule position record).2.RemembersRules records ∧
      (r.textOf rule position record).2.styles = r.styles := by
  unfold StyleResolver.textOf
  cases hknown : r.texts[RuleUse.mk position rule]? with
  | some known =>
    obtain ⟨record', outcome, hrecord', houtcome, rfl⟩ := h.texts position rule known hknown
    obtain rfl := Option.some.inj (hrecord.symm.trans hrecord')
    rw [houtcome]
    exact ⟨rfl, h, rfl⟩
  | none =>
    cases houtcome : evaluateExpression rule record with
    | error e => exact ⟨rfl, h, rfl⟩
    | ok outcome =>
      refine ⟨rfl, ⟨fun position' rule' text hget => ?_, h.literals⟩, rfl⟩
      rw [Std.ExtTreeMap.getElem?_insert] at hget
      split at hget
      · next hkey =>
        obtain ⟨rfl, rfl⟩ := RuleUse.mk.inj (Std.LawfulEqOrd.eq_of_compare hkey)
        obtain rfl := Option.some.inj hget
        exact ⟨record, outcome, hrecord, houtcome, rfl⟩
      · exact h.texts position' rule' text hget

/-- A rule without a formula is the color that it spells, remembered or not. -/
theorem RemembersRules.literalOf (h : r.RemembersRules records) (rule : String) :
    (r.literalOf rule).1 = Color.ofHex? rule ∧ (r.literalOf rule).2.RemembersRules records ∧
      (r.literalOf rule).2.styles = r.styles := by
  unfold StyleResolver.literalOf
  cases hknown : r.literals[rule]? with
  | some known => exact ⟨(h.literals rule known hknown).symm, h, rfl⟩
  | none =>
    refine ⟨rfl, ⟨h.texts, fun rule' color hget => ?_⟩, rfl⟩
    rw [Std.ExtTreeMap.getElem?_insert] at hget
    split at hget
    · next hkey =>
      obtain rfl := Std.LawfulEqOrd.eq_of_compare hkey
      exact Option.some.inj hget
    · exact h.literals rule' color hget

/-- The color of a rule is what the rule gives, remembered or not. -/
theorem RemembersRules.colorOf (h : r.RemembersRules records)
    (hrecord : records position = some record) (rule : Option String) :
    (r.colorOf rule position record).1 = ruleColor rule record ∧
      (r.colorOf rule position record).2.RemembersRules records ∧
      (r.colorOf rule position record).2.styles = r.styles := by
  unfold StyleResolver.colorOf ruleColor
  cases rule with
  | none => exact ⟨rfl, h, rfl⟩
  | some rule =>
    dsimp only
    split
    · obtain ⟨htext, hrules, hstyles⟩ := h.textOf hrecord rule
      cases hget : r.textOf rule position record with
      | mk text r₁ =>
        rw [hget] at htext hrules hstyles
        dsimp only at htext hrules hstyles
        subst htext
        cases evaluateExpression rule record <;> exact ⟨by simp only [Except.map], hrules, hstyles⟩
    · obtain ⟨hcolor, hrules, hstyles⟩ := h.literalOf rule
      exact ⟨congrArg Except.ok hcolor, hrules, hstyles⟩

/-- The style of a cell is the one for its coloring; what was remembered of rules makes no
difference. -/
theorem RemembersRules.resolve (h : r.RemembersRules records)
    (hrecord : records position = some record) (column : TableColumn) (base : Nat)
    (registry : StyleRegistry) :
    ∃ r' : StyleResolver, r'.RemembersRules records ∧ r'.styles = r.styles ∧
      r.resolve column base position record registry =
        match coloringOf column base record with
        | .error e => (.error e, r', registry)
        | .ok key =>
          if key.isPlain then (.ok base, r', registry)
          else (.ok (r'.styleFor key registry).1, (r'.styleFor key registry).2) := by
  unfold StyleResolver.resolve coloringOf
  obtain ⟨hbackground, hrules₁, hstyles₁⟩ := h.colorOf hrecord column.backgroundColor
  cases hget₁ : r.colorOf column.backgroundColor position record with
  | mk background r₁ =>
    rw [hget₁] at hbackground hrules₁ hstyles₁
    dsimp only at hbackground hrules₁ hstyles₁
    subst hbackground
    cases ruleColor column.backgroundColor record with
    | error e => exact ⟨r₁, hrules₁, hstyles₁, rfl⟩
    | ok background =>
      obtain ⟨hfont, hrules₂, hstyles₂⟩ := hrules₁.colorOf hrecord column.fontColor
      cases hget₂ : r₁.colorOf column.fontColor position record with
      | mk font r₂ =>
        rw [hget₂] at hfont hrules₂ hstyles₂
        dsimp only at hfont hrules₂ hstyles₂
        subst hfont
        refine ⟨r₂, hrules₂, hstyles₂.trans hstyles₁, ?_⟩
        cases hfont : ruleColor column.fontColor record with
        | error e => simp only [hget₂, hfont]; rfl
        | ok font => simp only [hget₂, hfont]; rfl

end Rules

/-- What a resolver remembers is so. -/
structure Remembers (first : StyleRegistry) (records : List Record) (r : StyleResolver)
    (registry : StyleRegistry) : Prop where
  rules : r.RemembersRules (records[·]?)
  styles : ∀ key id, r.styles.lookup key = some id → RegisteredAs first registry key id
  grown : first.Grows registry

variable {first registry registry' : StyleRegistry} {records : List Record} {r r' : StyleResolver}
  {position : Nat} {record : Record}

theorem remembers_init (registry : StyleRegistry) (records : List Record) :
    Remembers registry records {} registry where
  rules := remembersRules_init _
  styles key id h := by cases h
  grown := .refl

theorem RemembersRules.of_styles {records : Nat → Option Record} (h : r.RemembersRules records)
    (styles : List (Coloring × Nat)) : RemembersRules records { r with styles } :=
  ⟨h.texts, h.literals⟩

/-- A coloring is found again under the number that it was given. -/
theorem Remembers.styleFor (h : Remembers first records r registry) (key : Coloring) {id : Nat}
    (hstyle : r.styleFor key registry = (id, r', registry')) :
    Remembers first records r' registry' ∧ registry.Grows registry' ∧
      RegisteredAs first registry' key id := by
  unfold StyleResolver.styleFor at hstyle
  cases hknown : r.styles.lookup key with
  | some known =>
    rw [hknown] at hstyle
    obtain ⟨rfl, hrest⟩ := Prod.mk.inj hstyle
    obtain ⟨rfl, rfl⟩ := Prod.mk.inj hrest
    exact ⟨h, .refl, h.styles key known hknown⟩
  | none =>
    rw [hknown] at hstyle
    obtain ⟨rfl, hrest⟩ := Prod.mk.inj hstyle
    obtain ⟨rfl, rfl⟩ := Prod.mk.inj hrest
    have hgrown := registry.grows_getOrCreate
      ((registry.get key.base).recolor key.background key.font)
    have hnew : RegisteredAs first _ key _ := ⟨registry, h.grown, .refl, rfl⟩
    refine ⟨⟨h.rules.of_styles _, fun key' id' h' => ?_, h.grown.trans hgrown⟩, hgrown, hnew⟩
    rw [List.lookup_cons] at h'
    cases hkey : key' == key with
    | true =>
      rw [hkey] at h'
      obtain rfl := eq_of_beq hkey
      obtain rfl := Option.some.inj h'
      exact hnew
    | false =>
      rw [hkey] at h'
      exact (h.styles key' id' h').mono hgrown

/-- The style of a cell is settled by its sample, its column and its record. -/
theorem Remembers.resolve (h : Remembers first records r registry)
    (hrecord : records[position]? = some record) {column : TableColumn} {base id : Nat}
    (hresolve : r.resolve column base position record registry = (.ok id, r', registry')) :
    Remembers first records r' registry' ∧ registry.Grows registry' ∧
      ResolvedStyle first registry' column base record id := by
  obtain ⟨r₁, hrules, hstyles, heq⟩ := h.rules.resolve hrecord column base registry
  have hremembers : Remembers first records r₁ registry := ⟨hrules, hstyles ▸ h.styles, h.grown⟩
  rw [heq] at hresolve
  cases hkey : coloringOf column base record with
  | error e =>
    rw [hkey] at hresolve
    cases (Prod.mk.inj hresolve).1
  | ok key =>
    obtain ⟨rfl, hbackground, hfont⟩ := coloringOf_eq_ok hkey
    rw [hkey] at hresolve
    dsimp only at hresolve
    split at hresolve
    · next hplain =>
      obtain ⟨heq, hrest⟩ := Prod.mk.inj hresolve
      obtain ⟨rfl, rfl⟩ := Prod.mk.inj hrest
      exact ⟨hremembers, .refl, _, _, hbackground, hfont,
        (if_pos hplain).symm ▸ (Except.ok.inj heq).symm⟩
    · next hcolor =>
      obtain ⟨heq, hrest⟩ := Prod.mk.inj hresolve
      obtain ⟨rfl, rfl⟩ := Prod.mk.inj hrest
      obtain ⟨hafter, hgrown, hid⟩ := hremembers.styleFor key rfl
      refine ⟨hafter, hgrown, _, _, hbackground, hfont, ?_⟩
      rw [← Coloring.isPlain, if_neg hcolor, ← Except.ok.inj heq]
      exact hid

end StyleResolver

end SheetPress
