import SheetPress.Proofs.Markup.Parts
import SheetPress.Package.StyleTable

/-!
# Reading a style table, element by element

A style table is read event by event, with a state for what is open. Between the elements of a
document the state is simple: outside of all items it is a section and what was gathered so far
(`StyleScan.between`), inside an item it is that item besides (`StyleScan.holding`). Items are fonts,
fills, borders and cell formats; `StyleItem` is any of them while it is read.

* `StyleScan.foldl_holding` — parts inside an item change the item only.
* `StyleScan.foldl_between` — the parts of a section add its items, in the order of their opening
  tags.
* `StyleScan.foldl_outside` — a document adds the items of all its sections.
-/

namespace SheetPress

/-! ## Names -/

theorem isNamed_eq_false {name : List Char} {a b : String} (h : isNamed name a = true)
    (hab : a ≠ b) : isNamed name b = false := by
  rw [isNamed_iff] at h
  rw [Bool.eq_false_iff, Ne, isNamed_iff, h, String.toList_inj]
  exact hab

theorem Side.ofName?_eq_none {name : List Char} {a : String} (h : isNamed name a = true)
    (ha : a ∉ ["left", "right", "top", "bottom"]) : Side.ofName? name = none := by
  simp only [List.mem_cons, List.not_mem_nil, or_false, not_or] at ha
  simp [Side.ofName?, isNamed_eq_false h, ha]

/-! ## Items -/

/-- Borders that are being read, with the side that is open. -/
structure PendingBorders where
  borders : Borders := {}
  side : Option Side := none

namespace PendingBorders

/-- Borders with what an opening tag inside them says. A color is that of the side that is open. -/
def read (p : PendingBorders) (tag : MarkupTag) : PendingBorders :=
  match Side.ofName? tag.name with
  | some side =>
    let line := ((tag.value? "style").map BorderLine.ofName).getD .none
    { borders := p.borders.modify side ({ · with line }), side := some side }
  | none =>
    match p.side with
    | some side =>
      if isNamed tag.name "color" then
        { p with borders := p.borders.modify side ({ · with color := tag.color? }) }
      else p
    | none => p

/-- Borders behind a closing tag inside them. -/
def leave (p : PendingBorders) (name : List Char) : PendingBorders :=
  if (Side.ofName? name).isSome then { p with side := none } else p

/-- Borders behind an event inside them. -/
def step (p : PendingBorders) : MarkupEvent → PendingBorders
  | .opening tag => p.read tag
  | .closing name => p.leave name
  | .text _ => p

/-- Behind an element no side is open that was not open in front of it. -/
theorem side_foldl_step {parts : List MarkupPart} {p : PendingBorders}
    (h : p.side = none) : ((eventsOf parts).foldl step p).side = none := by
  induction parts using parts_induction generalizing p with
  | nil => exact h
  | text text rest ih => exact ih h
  | element tag inside rest ihInside ihRest =>
    simp only [eventsOf_element, List.foldl_cons, List.foldl_append, step]
    refine ihRest ?_
    unfold leave
    cases hside : Side.ofName? tag.name with
    | some side => rfl
    | none =>
      have hread : p.read tag = p := by simp [read, hside, h]
      rw [hread]
      exact ihInside h

end PendingBorders

/-- An element of one of the lists while it is being read. -/
inductive StyleItem where
  | font (f : Font)
  | fill (p : PendingFill)
  | borders (p : PendingBorders)
  | format (f : CellFormat)

namespace StyleItem

/-- The section that holds items of a kind. -/
def within : StyleItem → StyleSection
  | .font _ => .fonts
  | .fill _ => .fills
  | .borders _ => .borders
  | .format _ => .formats

/-- The item behind an event inside it. -/
def step (item : StyleItem) (event : MarkupEvent) : StyleItem :=
  match item, event with
  | .font f, .opening tag => .font (f.read tag)
  | .fill p, .opening tag => .fill (p.read tag)
  | .format f, .opening tag => .format (f.read tag)
  | .borders p, event => .borders (p.step event)
  | item, _ => item

/-- Whether no side of the item is open. -/
def IsSettled (item : StyleItem) : Prop := ∀ p, item = .borders p → p.side = none

/-- The font that an item is, if it is one. -/
def font? : StyleItem → Option Font
  | .font f => some f
  | _ => none

/-- The fill that an item is, if it is one. -/
def fill? : StyleItem → Option Fill
  | .fill p => some p.fill
  | _ => none

/-- The borders that an item is, if it is some. -/
def borders? : StyleItem → Option Borders
  | .borders p => some p.borders
  | _ => none

/-- The cell format that an item is, if it is one. -/
def format? : StyleItem → Option CellFormat
  | .format f => some f
  | _ => none

variable {item : StyleItem} {tag : MarkupTag}

@[simp] theorem within_step (item : StyleItem) (event : MarkupEvent) :
    (item.step event).within = item.within := by
  cases item <;> cases event <;> rfl

@[simp] theorem within_foldl_step (events : List MarkupEvent) :
    (events.foldl step item).within = item.within := by
  induction events generalizing item with
  | nil => rfl
  | cons event events ih => rw [List.foldl_cons, ih, within_step]

theorem IsSettled.foldl_step {parts : List MarkupPart} (h : item.IsSettled) :
    ((eventsOf parts).foldl step item).IsSettled := by
  cases item with
  | borders p =>
    rw [List.foldl_hom borders (fun _ _ => rfl)]
    rintro _ ⟨⟩
    exact PendingBorders.side_foldl_step (h p rfl)
  | _ =>
    intro p hp
    have hwithin := congrArg within hp
    rw [within_foldl_step] at hwithin
    cases hwithin

theorem step_opening (h : isNamed tag.name "numFmt" = true) :
    item.step (.opening tag) = item := by
  cases item with
  | font f => simp [step, Font.read, isNamed_eq_false h]
  | fill p => simp [step, PendingFill.read, isNamed_eq_false h]
  | borders p =>
    cases hp : p.side <;>
      simp [step, PendingBorders.step, PendingBorders.read, hp,
        Side.ofName?_eq_none h (by decide), isNamed_eq_false h]
  | format f => simp [step, CellFormat.read, isNamed_eq_false h]

end StyleItem

namespace StyleSection

/-- The name of the element that a section with a list is. -/
def listName : StyleSection → String
  | .fonts => "fonts"
  | .fills => "fills"
  | .borders => "borders"
  | .formats => "cellXfs"
  | .other => ""

/-- The name of the elements that the list of a section consists of. -/
def itemName : StyleSection → String
  | .fonts => "font"
  | .fills => "fill"
  | .borders => "border"
  | .formats => "xf"
  | .other => ""

/-- The item that an opening tag begins in a section, with nothing read inside it. -/
def begin? (within : StyleSection) (tag : MarkupTag) : Option StyleItem :=
  match within with
  | .fonts => if isNamed tag.name "font" then some (.font {}) else none
  | .fills => if isNamed tag.name "fill" then some (.fill {}) else none
  | .borders => if isNamed tag.name "border" then some (.borders {}) else none
  | .formats => if isNamed tag.name "xf" then some (.format (.ofTag tag)) else none
  | .other => none

/-- The item that an element of a section is. -/
def item? (within : StyleSection) (e : MarkupElement) : Option StyleItem :=
  (within.begin? e.tag).map fun item => (eventsOf e.inside).foldl StyleItem.step item

/-- The items of a section, by its parts. -/
def items (within : StyleSection) (parts : List MarkupPart) : List StyleItem :=
  (elementsOf parts).filterMap within.item?

/-- Whether parts begin no section and no item of a section. -/
def IsBare (within : StyleSection) (parts : List MarkupPart) : Prop :=
  ∀ e ∈ elementsOf parts, ofTag? e.tag = none ∧ within.begin? e.tag = none

/-- Whether the parts of a section begin no other section, and its items hold no items. -/
def IsList (within : StyleSection) (parts : List MarkupPart) : Prop :=
  ∀ e ∈ elementsOf parts,
    ofTag? e.tag = none ∧ ((within.begin? e.tag).isSome → within.IsBare e.inside)

section Parts

variable {within : StyleSection} {tag : MarkupTag} {inside rest parts : List MarkupPart}

theorem ofTag?_eq_none (h : isNamed tag.name "numFmt" = true) :
    ofTag? tag = none := by
  simp [ofTag?, isNamed_eq_false h]

theorem isNamed_eq_false_of_ofTag? (h : ofTag? tag = some within) :
    isNamed tag.name "numFmt" = false :=
  Bool.eq_false_iff.2 fun hn => by simp [ofTag?_eq_none hn] at h

theorem ofTag?_eq_some_iff (hw : within ≠ .other) :
    ofTag? tag = some within ↔ isNamed tag.name within.listName = true := by
  constructor
  · intro h
    unfold ofTag? at h
    split_ifs at h <;> cases h <;> first | assumption | exact absurd rfl hw
  · intro h
    cases within with
    | other => exact absurd rfl hw
    | _ =>
      simp only [listName] at h
      simp [ofTag?, h, isNamed_eq_false h]

/-- A tag that begins no section does not end one either. -/
theorem isListName_eq_false (h : ofTag? tag = none) :
    (isNamed tag.name "fonts" || isNamed tag.name "fills" || isNamed tag.name "borders"
      || isNamed tag.name "cellXfs") = false := by
  have hlist : ∀ w ≠ StyleSection.other, isNamed tag.name w.listName = false := by
    intro w hw
    rw [Bool.eq_false_iff, Ne, ← ofTag?_eq_some_iff hw, h]
    simp
  rw [Bool.or_eq_false_iff, Bool.or_eq_false_iff, Bool.or_eq_false_iff]
  exact ⟨⟨⟨hlist .fonts nofun, hlist .fills nofun⟩, hlist .borders nofun⟩, hlist .formats nofun⟩

theorem isBare_element :
    within.IsBare (.element tag inside :: rest) ↔
      ofTag? tag = none ∧ within.begin? tag = none ∧ within.IsBare inside ∧ within.IsBare rest := by
  simp only [IsBare, elementsOf_element, List.forall_mem_cons, List.forall_mem_append, and_assoc]

theorem isList_element :
    within.IsList (.element tag inside :: rest) ↔
      ofTag? tag = none ∧ ((within.begin? tag).isSome → within.IsBare inside) ∧
        within.IsList inside ∧ within.IsList rest := by
  simp only [IsList, elementsOf_element, List.forall_mem_cons, List.forall_mem_append, and_assoc]

@[simp] theorem items_nil : within.items [] = [] := rfl

@[simp] theorem items_text (t : MarkupText) : within.items (.text t :: rest) = within.items rest :=
  rfl

theorem begin?_eq_some {item : StyleItem} (h : within.begin? tag = some item) :
    item.within = within ∧ item.IsSettled := by
  cases within <;>
    simp only [begin?, Option.ite_none_right_eq_some, Option.some.injEq, reduceCtorEq] at h <;>
    exact ⟨by rw [← h.2]; rfl, fun p hp => by rw [← h.2] at hp; cases hp <;> rfl⟩

theorem isSome_begin?_iff (hw : within ≠ .other) :
    (within.begin? tag).isSome ↔ isNamed tag.name within.itemName = true := by
  cases within with
  | other => exact absurd rfl hw
  | _ => simp [begin?, itemName]

theorem within_of_mem_items {item : StyleItem} (h : item ∈ within.items parts) :
    item.within = within := by
  rw [items, List.mem_filterMap] at h
  obtain ⟨e, -, he⟩ := h
  rw [item?, Option.map_eq_some_iff] at he
  obtain ⟨start, hstart, rfl⟩ := he
  rw [StyleItem.within_foldl_step, (begin?_eq_some hstart).1]

theorem items_element_of_item {item : StyleItem} (hb : within.begin? tag = some item)
    (h : within.IsBare inside) :
    within.items (.element tag inside :: rest) =
      (eventsOf inside).foldl StyleItem.step item :: within.items rest := by
  have hinside : within.items inside = [] := by
    rw [items, List.filterMap_eq_nil_iff]
    intro e he
    rw [item?, (h e he).2, Option.map_none]
  rw [items, elementsOf_element, List.filterMap_cons_some (by rw [item?, hb, Option.map_some]),
    List.filterMap_append]
  exact congrArg _ (congrArg (· ++ within.items rest) hinside)

theorem items_element (hb : within.begin? tag = none) :
    within.items (.element tag inside :: rest) = within.items inside ++ within.items rest := by
  rw [items, elementsOf_element, List.filterMap_cons_none (by rw [item?, hb, Option.map_none]),
    List.filterMap_append]
  rfl

@[simp] theorem items_other : StyleSection.other.items parts = [] := by
  rw [items, List.filterMap_eq_nil_iff]
  exact fun _ _ => rfl

end Parts

end StyleSection

/-- The items of all sections of a document. -/
def listedIn (parts : List MarkupPart) : List StyleItem :=
  (elementsOf parts).flatMap fun e =>
    (StyleSection.ofTag? e.tag).elim [] fun within => within.items e.inside

/-- The number format that an element declares, with its number. -/
def MarkupTag.declaration? (tag : MarkupTag) : Option (Nat × String) :=
  if isNamed tag.name "numFmt" then
    (tag.natural? indexLimit "numFmtId").bind fun id =>
      (tag.value? "formatCode").map fun code => (id, code)
  else none

/-- The number formats that parts declare. -/
def declaredIn (parts : List MarkupPart) : List (Nat × String) :=
  (tagsOf parts).filterMap MarkupTag.declaration?

section Declared

variable {tag : MarkupTag} {inside rest : List MarkupPart}

theorem MarkupTag.declaration?_eq_none (h : isNamed tag.name "numFmt" = false) :
    tag.declaration? = none := by
  simp [MarkupTag.declaration?, h]

@[simp] theorem declaredIn_nil : declaredIn [] = [] := rfl

@[simp] theorem declaredIn_text (t : MarkupText) : declaredIn (.text t :: rest) = declaredIn rest :=
  rfl

@[simp] theorem listedIn_nil : listedIn [] = [] := rfl

@[simp] theorem listedIn_text (t : MarkupText) : listedIn (.text t :: rest) = listedIn rest := rfl

theorem declaredIn_element :
    declaredIn (.element tag inside :: rest) =
      tag.declaration?.toList ++ (declaredIn inside ++ declaredIn rest) := by
  cases h : tag.declaration? <;> simp [declaredIn, h]

theorem listedIn_element :
    listedIn (.element tag inside :: rest) =
      ((StyleSection.ofTag? tag).elim [] fun within => within.items inside) ++
        (listedIn inside ++ listedIn rest) := by
  simp [listedIn]

theorem StyleSection.IsList.listedIn_eq {within : StyleSection} (h : within.IsList rest) :
    listedIn rest = [] := by
  rw [listedIn, List.flatMap_eq_nil_iff]
  intro e he
  rw [(h e he).1, Option.elim_none]

end Declared

namespace StyleTable

/-- A style table with declarations and items taken in. -/
def extend (t : StyleTable) (declared : List (Nat × String)) (items : List StyleItem) :
    StyleTable where
  numberFormats := declared.reverse ++ t.numberFormats
  fonts := t.fonts ++ items.filterMap StyleItem.font?
  fills := t.fills ++ items.filterMap StyleItem.fill?
  borders := t.borders ++ items.filterMap StyleItem.borders?
  formats := t.formats ++ items.filterMap StyleItem.format?

variable {t : StyleTable}

@[simp] theorem extend_nil : t.extend [] [] = t := by simp [extend]

theorem extend_extend (declared declared' : List (Nat × String)) (items items' : List StyleItem) :
    (t.extend declared items).extend declared' items' =
      t.extend (declared ++ declared') (items ++ items') := by
  simp [extend, List.reverse_append]

end StyleTable

namespace StyleScan

/-- The state with nothing open but a section. -/
def between (t : StyleTable) (within : StyleSection) : StyleScan := { table := t, within }

/-- The state with an item open. -/
def holding (t : StyleTable) : StyleItem → StyleScan
  | .font f => { table := t, within := .fonts, font := some f }
  | .fill p => { table := t, within := .fills, fill := some p }
  | .borders p => { table := t, within := .borders, borders := some p.borders, side := p.side }
  | .format f => { table := t, within := .formats, format := some f }

variable {t : StyleTable} {within : StyleSection} {item : StyleItem} {tag : MarkupTag}

/-! ## One event -/

/-- Number formats are taken in wherever they are declared. -/
theorem openTag_numFmt (s : StyleScan) (h : isNamed tag.name "numFmt" = true) :
    s.openTag tag = { s with table := s.table.extend tag.declaration?.toList [] } := by
  rw [openTag, if_pos h, declare, MarkupTag.declaration?, if_pos h]
  split
  · rename_i id code hid hcode
    simp [hid, hcode, StyleTable.extend]
  · rename_i hnone
    cases hid : tag.natural? indexLimit "numFmtId" with
    | none => simp
    | some id =>
      cases hcode : tag.value? "formatCode" with
      | none => simp
      | some code => exact absurd hcode (hnone id code hid)

theorem openTag_within (s : StyleScan) (h : isNamed tag.name "numFmt" = false)
    (hs : StyleSection.ofTag? tag = none) : s.openTag tag = s.openWithin tag := by
  simp [openTag, h, hs]

theorem openTag_between_section {within' : StyleSection}
    (h : StyleSection.ofTag? tag = some within') :
    (between t within).openTag tag = between t within' := by
  simp [openTag, StyleSection.isNamed_eq_false_of_ofTag? h, h, between]

theorem openTag_between (h : StyleSection.ofTag? tag = none) (hb : within.begin? tag = none) :
    (between t within).openTag tag = between (t.extend tag.declaration?.toList []) within := by
  cases hn : isNamed tag.name "numFmt" with
  | true => exact openTag_numFmt _ hn
  | false =>
    rw [openTag_within _ hn h, MarkupTag.declaration?_eq_none hn, Option.toList_none,
      StyleTable.extend_nil]
    cases within <;> simp_all [StyleSection.begin?, openWithin, openBorder, between]

theorem openTag_between_item (h : StyleSection.ofTag? tag = none)
    (hb : within.begin? tag = some item) :
    (between t within).openTag tag = holding (t.extend tag.declaration?.toList []) item := by
  have hn : isNamed tag.name "numFmt" = false := by
    rw [Bool.eq_false_iff]
    intro hn
    cases within <;> simp [StyleSection.begin?, isNamed_eq_false hn] at hb
  rw [openTag_within _ hn h, MarkupTag.declaration?_eq_none hn, Option.toList_none,
    StyleTable.extend_nil]
  cases within <;>
    simp_all only [StyleSection.begin?, openWithin, openBorder, between, if_true,
      Option.ite_none_right_eq_some, Option.some.injEq, reduceCtorEq] <;>
    rw [← hb.2] <;> rfl

theorem openTag_holding (h : StyleSection.ofTag? tag = none) (hb : item.within.begin? tag = none) :
    (holding t item).openTag tag =
      holding (t.extend tag.declaration?.toList []) (item.step (.opening tag)) := by
  cases hn : isNamed tag.name "numFmt" with
  | true =>
    rw [openTag_numFmt _ hn, StyleItem.step_opening hn]
    cases item <;> rfl
  | false =>
    rw [openTag_within _ hn h, MarkupTag.declaration?_eq_none hn, Option.toList_none,
      StyleTable.extend_nil]
    cases item with
    | font f =>
      simp_all [StyleItem.within, StyleSection.begin?, openWithin, holding, StyleItem.step]
    | fill p =>
      simp_all [StyleItem.within, StyleSection.begin?, openWithin, holding, StyleItem.step]
    | borders p =>
      cases hside : Side.ofName? tag.name <;> cases hp : p.side <;>
      simp_all [StyleItem.within, StyleSection.begin?, openWithin, openBorder, holding,
        StyleItem.step, PendingBorders.step, PendingBorders.read]
      split <;> simp_all
    | format f =>
      simp_all [StyleItem.within, StyleSection.begin?, openWithin, holding, StyleItem.step]

theorem closeTag_outside (name : List Char) :
    (between t .other).closeTag name = between t .other := by
  unfold closeTag
  split_ifs <;> simp [between]

theorem closeTag_between_section (h : StyleSection.ofTag? tag = some within) :
    (between t within).closeTag tag.name = between t .other := by
  by_cases hw : within = .other
  · rw [hw, closeTag_outside]
  · have hn := (StyleSection.ofTag?_eq_some_iff hw).1 h
    cases within with
    | other => exact absurd rfl hw
    | _ =>
      simp only [StyleSection.listName] at hn
      simp [closeTag, Side.ofName?, hn, isNamed_eq_false hn, between]

theorem closeTag_between (h : StyleSection.ofTag? tag = none) :
    (between t within).closeTag tag.name = between t within := by
  simp only [closeTag, StyleSection.isListName_eq_false h, Bool.false_eq_true, if_false]
  split_ifs <;> simp [between]

/-- The closing tags of other elements leave an item open. -/
theorem closeTag_holding (h : StyleSection.ofTag? tag = none)
    (hb : item.within.begin? tag = none) :
    (holding t item).closeTag tag.name = holding t (item.step (.closing tag.name)) := by
  simp only [closeTag, StyleSection.isListName_eq_false h, Bool.false_eq_true, if_false]
  cases item with
  | borders p =>
    simp only [StyleItem.within, StyleSection.begin?, ite_eq_right_iff, reduceCtorEq,
      imp_false, Bool.not_eq_true] at hb
    simp only [hb, Bool.false_eq_true, if_false, StyleItem.step, PendingBorders.step,
      PendingBorders.leave]
    cases hside : (Side.ofName? tag.name).isSome with
    | true =>
      -- the name of a side is not that of an item
      have hname : ∀ a ∉ ["left", "right", "top", "bottom"], isNamed tag.name a = false :=
        fun a ha => Bool.eq_false_iff.2 fun hn => by simp [Side.ofName?_eq_none hn ha] at hside
      simp [hname, holding]
    | false =>
      simp only [Bool.false_eq_true, if_false]
      split_ifs <;> simp [holding]
  | _ =>
    simp only [StyleItem.within, StyleSection.begin?, ite_eq_right_iff, reduceCtorEq,
      imp_false, Bool.not_eq_true] at hb
    simp only [hb, Bool.false_eq_true, if_false, StyleItem.step]
    split_ifs <;> simp [holding]

/-- The closing tag of an item puts it at the end of its list. -/
theorem closeTag_item {start : StyleItem} (hw : item.within = within)
    (hb : within.begin? tag = some start) (hs : item.IsSettled) :
    (holding t item).closeTag tag.name = between (t.extend [] [item]) within := by
  subst hw
  cases item with
  | borders p =>
    simp only [StyleItem.within, StyleSection.begin?, Option.ite_none_right_eq_some] at hb
    simp [closeTag, hb.1, isNamed_eq_false hb.1, holding, between, StyleTable.extend, hs p rfl,
      StyleItem.within, StyleItem.font?, StyleItem.fill?, StyleItem.borders?, StyleItem.format?]
  | _ =>
    simp only [StyleItem.within, StyleSection.begin?, Option.ite_none_right_eq_some] at hb
    simp [closeTag, hb.1, isNamed_eq_false hb.1, holding, between, StyleTable.extend,
      StyleItem.within, StyleItem.font?, StyleItem.fill?, StyleItem.borders?, StyleItem.format?]

/-! ## Elements -/

/-- Parts inside an item change the item only, but for the number formats that they declare. -/
theorem foldl_holding {parts : List MarkupPart} (h : item.within.IsBare parts) :
    (eventsOf parts).foldl step (holding t item) =
      holding (t.extend (declaredIn parts) []) ((eventsOf parts).foldl StyleItem.step item) := by
  induction parts using parts_induction generalizing t item with
  | nil => simp [eventsOf]
  | text text rest ih =>
    have hitem : item.step (.text text) = item := by cases item <;> rfl
    simpa [hitem, step] using ih h
  | element tag inside rest ihInside ihRest =>
    rw [StyleSection.isBare_element] at h
    obtain ⟨hsection, hitem, hinside, hrest⟩ := h
    simp only [eventsOf_element, List.foldl_cons, List.foldl_append, step]
    rw [openTag_holding hsection hitem, ihInside (by simpa using hinside),
      closeTag_holding hsection (by simpa using hitem), ihRest (by simpa using hrest),
      StyleTable.extend_extend, StyleTable.extend_extend, declaredIn_element]
    simp

/-- The parts of a section add its items. -/
theorem foldl_between {parts : List MarkupPart} (h : within.IsList parts) :
    (eventsOf parts).foldl step (between t within) =
      between (t.extend (declaredIn parts) (within.items parts)) within := by
  induction parts using parts_induction generalizing t with
  | nil => simp [eventsOf]
  | text text rest ih => simpa [step] using ih h
  | element tag inside rest ihInside ihRest =>
    rw [StyleSection.isList_element] at h
    obtain ⟨hsection, hbare, hinside, hrest⟩ := h
    simp only [eventsOf_element, List.foldl_cons, List.foldl_append, step]
    cases hb : within.begin? tag with
    | none =>
      rw [openTag_between hsection hb, ihInside hinside, closeTag_between hsection, ihRest hrest,
        StyleTable.extend_extend, StyleTable.extend_extend, declaredIn_element,
        StyleSection.items_element hb]
      simp
    | some item =>
      -- the item is open up to the closing tag of its own element
      have hwithin := (StyleSection.begin?_eq_some hb).1
      have hsettled := (StyleSection.begin?_eq_some hb).2
      have hbare := hbare (by rw [hb]; rfl)
      rw [openTag_between_item hsection hb, foldl_holding (by rwa [hwithin]),
        closeTag_item (by rwa [StyleItem.within_foldl_step]) hb hsettled.foldl_step, ihRest hrest,
        StyleTable.extend_extend, StyleTable.extend_extend, StyleTable.extend_extend,
        declaredIn_element, StyleSection.items_element_of_item hb hbare]
      simp

/-- The parts outside of the lists add the items of the lists inside them. -/
theorem foldl_outside {parts : List MarkupPart}
    (h : ∀ within ≠ StyleSection.other, ∀ e ∈ elementsOf parts,
      StyleSection.ofTag? e.tag = some within → within.IsList e.inside) :
    (eventsOf parts).foldl step (between t .other) =
      between (t.extend (declaredIn parts) (listedIn parts)) .other := by
  induction parts using parts_induction generalizing t with
  | nil => simp [eventsOf]
  | text text rest ih => simpa [step] using ih h
  | element tag inside rest ihInside ihRest =>
    simp only [elementsOf_element, List.forall_mem_cons, List.forall_mem_append] at h
    have hlist := fun w hw => (h w hw).1
    have hinside := fun w hw => (h w hw).2.1
    have hrest := fun w hw => (h w hw).2.2
    simp only [eventsOf_element, List.foldl_cons, List.foldl_append, step]
    cases hs : StyleSection.ofTag? tag with
    | none =>
      rw [openTag_between hs rfl, ihInside hinside, closeTag_between hs, ihRest hrest,
        StyleTable.extend_extend, StyleTable.extend_extend, declaredIn_element,
        listedIn_element, hs]
      simp
    | some within =>
      have hd : tag.declaration? = none :=
        MarkupTag.declaration?_eq_none (StyleSection.isNamed_eq_false_of_ofTag? hs)
      rw [openTag_between_section hs]
      by_cases hw : within = .other
      · -- what is inside `cellStyleXfs` or `dxfs` stands outside of the lists
        subst hw
        rw [ihInside hinside, closeTag_outside, ihRest hrest, StyleTable.extend_extend,
          declaredIn_element, listedIn_element, hd, hs, Option.elim_some, StyleSection.items_other]
        simp
      · -- a list holds no section, so nothing else is listed inside it
        have hlist := hlist within hw hs
        rw [foldl_between hlist, closeTag_between_section hs, ihRest hrest,
          StyleTable.extend_extend, declaredIn_element, listedIn_element, hd, hs, Option.elim_some,
          hlist.listedIn_eq]
        simp

end StyleScan

end SheetPress
