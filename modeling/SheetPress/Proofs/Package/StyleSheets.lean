import SheetPress.Proofs.Package.StyleScan

/-!
# Style sheets

What the styles of a package are, by its document: one for each `xf` element of the section
`cellXfs`, with the font, the fill and the borders at the positions that it names, and its number
format. `IsStyleSheet` says which documents are read like this; the order of their sections is left
open. Documents stand for balanced events here, which is no restriction (`closesFrom_iff`).

* `styleOf` — the style that a cell format of a document stands for.
* `StyleTable.styles_ofEvents` — these are the styles that are read, whatever the order of the
  sections.
-/

namespace SheetPress

/-! ## The elements of the lists -/

/-- The font that an element with some parts inside it describes. -/
def Font.ofParts (inside : List MarkupPart) : Font := (tagsOf inside).foldl Font.read {}

/-- The fill that an element with some parts inside it describes. -/
def Fill.ofParts (inside : List MarkupPart) : Fill :=
  ((tagsOf inside).foldl PendingFill.read {}).fill

/-- The borders that an element with some parts inside it describes. -/
def Borders.ofParts (inside : List MarkupPart) : Borders :=
  ((eventsOf inside).foldl PendingBorders.step {}).borders

/-- The cell format that an element describes. -/
def CellFormat.ofElement (e : MarkupElement) : CellFormat :=
  (tagsOf e.inside).foldl CellFormat.read (.ofTag e.tag)

/-- What is inside a cell format changes none of its references. -/
theorem CellFormat.references_foldl_read (tags : List MarkupTag) (f : CellFormat) :
    (tags.foldl CellFormat.read f).numberFormat = f.numberFormat ∧
      (tags.foldl CellFormat.read f).font = f.font ∧ (tags.foldl CellFormat.read f).fill = f.fill ∧
        (tags.foldl CellFormat.read f).border = f.border := by
  induction tags generalizing f with
  | nil => exact ⟨rfl, rfl, rfl, rfl⟩
  | cons tag tags ih =>
    rw [List.foldl_cons]
    have hread : (f.read tag).numberFormat = f.numberFormat ∧ (f.read tag).font = f.font ∧
        (f.read tag).fill = f.fill ∧ (f.read tag).border = f.border := by
      unfold CellFormat.read
      split_ifs <;> exact ⟨rfl, rfl, rfl, rfl⟩
    rw [← hread.1, ← hread.2.1, ← hread.2.2.1, ← hread.2.2.2]
    exact ih _

/-! ## Style sheets -/

namespace StyleSection

/-- The sections with a list. -/
def lists : List StyleSection := [.fonts, .fills, .borders, .formats]

end StyleSection

/-- The sections that a style table is gathered from. -/
def sectionNames : List String := StyleSection.lists.map StyleSection.listName ++ ["numFmts"]

/-- The number formats that are declared in their section. -/
def numberFormatsOf (doc : List MarkupPart) : List (Nat × String) :=
  (itemsOf "numFmts" "numFmt" doc).filterMap fun e => e.tag.declaration?

/-- A document with a style table. -/
structure IsStyleSheet (doc : List MarkupPart) : Prop where
  /-- No section comes twice. -/
  single : ∀ name ∈ sectionNames, (elementsNamed name doc).length ≤ 1
  /-- No section stands inside a list. -/
  apart : ∀ w ∈ StyleSection.lists, ∀ e ∈ elementsNamed w.listName doc,
    ∀ inner ∈ elementsOf e.inside, StyleSection.ofTag? inner.tag = none
  /-- The elements of a list do not stand inside one another. -/
  flat : ∀ w ∈ StyleSection.lists, ∀ e ∈ itemsOf w.listName w.itemName doc,
    elementsNamed w.itemName e.inside = []
  /-- Number formats are declared in their section only. -/
  declared : ((elementsNamed "numFmt" doc).map (·.tag)).Perm
    ((itemsOf "numFmts" "numFmt" doc).map (·.tag))
  /-- No number is declared twice. -/
  distinct : ((numberFormatsOf doc).map Prod.fst).Nodup

instance (doc : List MarkupPart) : Decidable (IsStyleSheet doc) :=
  decidable_of_iff
    ((∀ name ∈ sectionNames, (elementsNamed name doc).length ≤ 1) ∧
      (∀ w ∈ StyleSection.lists, ∀ e ∈ elementsNamed w.listName doc,
        ∀ inner ∈ elementsOf e.inside, StyleSection.ofTag? inner.tag = none) ∧
      (∀ w ∈ StyleSection.lists, ∀ e ∈ itemsOf w.listName w.itemName doc,
        (elementsNamed w.itemName e.inside).length = 0) ∧
      ((elementsNamed "numFmt" doc).map (·.tag)).Perm
        ((itemsOf "numFmts" "numFmt" doc).map (·.tag)) ∧
      ((numberFormatsOf doc).map Prod.fst).Nodup)
    ⟨fun ⟨single, apart, flat, declared, distinct⟩ =>
      ⟨single, apart, fun w hw e he => List.length_eq_zero_iff.1 (flat w hw e he), declared,
        distinct⟩,
    fun h => ⟨h.single, h.apart, fun w hw e he => List.length_eq_zero_iff.2 (h.flat w hw e he),
      h.declared, h.distinct⟩⟩

/-- The style that an element of the cell formats of a document stands for. -/
def styleOf (doc : List MarkupPart) (e : MarkupElement) : CellStyle where
  font := (((itemsOf "fonts" "font" doc)[(e.tag.natural? sizeLimit "fontId").getD 0]?).map
    (Font.ofParts ·.inside)).getD {}
  fill := (((itemsOf "fills" "fill" doc)[(e.tag.natural? sizeLimit "fillId").getD 0]?).map
    (Fill.ofParts ·.inside)).getD .none
  borders := (((itemsOf "borders" "border" doc)[(e.tag.natural? sizeLimit "borderId").getD 0]?).map
    (Borders.ofParts ·.inside)).getD {}
  numberFormat :=
    let id := (e.tag.natural? indexLimit "numFmtId").getD 0
    if id = 0 then none else ((numberFormatsOf doc).lookup id).or (builtinNumberFormats.lookup id)
  horizontal := (CellFormat.ofElement e).horizontal
  vertical := (CellFormat.ofElement e).vertical
  wrapText := (CellFormat.ofElement e).wrapText

variable {doc doc' : List MarkupPart}

theorem listName_mem {w : StyleSection} (hw : w ∈ StyleSection.lists) :
    w.listName ∈ sectionNames :=
  List.mem_append_left _ (List.mem_map_of_mem hw)

theorem numFmts_mem : "numFmts" ∈ sectionNames :=
  List.mem_append_right _ (List.mem_singleton_self _)

/-! ## The lists of the table -/

theorem StyleSection.mem_lists_iff {w : StyleSection} : w ∈ lists ↔ w ≠ .other := by
  cases w <;> decide

theorem flatMap_filter {α β : Type*} (p : α → Bool) (f : α → List β) (l : List α) :
    (l.filter p).flatMap f = l.flatMap fun a => if p a then f a else [] := by
  induction l with
  | nil => rfl
  | cons a l ih => cases h : p a <;> simp [h, ih]

/-- The items of one kind are the elements of their list. -/
theorem filterMap_listedIn {α : Type*} {kind? : StyleItem → Option α} {read : MarkupElement → α}
    (w : StyleSection) (start : MarkupElement → StyleItem) (hw : w ≠ .other)
    (hstart : ∀ e, w.begin? e.tag = if e.isNamed w.itemName then some (start e) else none)
    (hread : ∀ e, kind? ((eventsOf e.inside).foldl StyleItem.step (start e)) = some (read e))
    (hother : ∀ item : StyleItem, item.within ≠ w → kind? item = none) :
    (listedIn doc).filterMap kind? = (itemsOf w.listName w.itemName doc).map read := by
  have hitem : ∀ e,
      (w.item? e).bind kind? = if e.isNamed w.itemName then some (read e) else none := by
    intro e
    rw [StyleSection.item?, hstart]
    split_ifs with h
    · exact hread e
    · rfl
  have hsection : ∀ e : MarkupElement,
      ((StyleSection.ofTag? e.tag).elim [] fun w' => w'.items e.inside).filterMap kind? =
        if e.isNamed w.listName then (elementsNamed w.itemName e.inside).map read else [] := by
    intro e
    have hlist : e.isNamed w.listName ↔ StyleSection.ofTag? e.tag = some w :=
      (StyleSection.ofTag?_eq_some_iff hw).symm
    cases hs : StyleSection.ofTag? e.tag with
    | none => simp [hlist, hs]
    | some w' =>
      by_cases hw' : w' = w
      · subst hw'
        rw [if_pos (hlist.2 hs), Option.elim_some, StyleSection.items, List.filterMap_filterMap,
          elementsNamed]
        simp only [hitem]
        rw [← List.filterMap_eq_map, List.filterMap_filter]
        rfl
      · rw [if_neg (by simp [hlist, hs, hw']), Option.elim_some, List.filterMap_eq_nil_iff]
        intro item h
        exact hother item (by rwa [StyleSection.within_of_mem_items h])
  rw [listedIn, itemsOf, elementsNamed, List.filterMap_flatMap, List.map_flatMap]
  simp only [hsection]
  exact (flatMap_filter _ _ _).symm

theorem filterMap_fonts : (listedIn doc).filterMap StyleItem.font? =
    (itemsOf "fonts" "font" doc).map (Font.ofParts ·.inside) := by
  refine filterMap_listedIn .fonts (fun _ => .font {}) nofun (fun _ => rfl) (fun e => ?_)
    fun item h => ?_
  · exact congrArg StyleItem.font?
      (foldl_eventsOf (fun _ _ => rfl) (fun _ _ => rfl) (fun _ _ => rfl) _)
  · cases item <;> first | rfl | exact absurd rfl h

theorem filterMap_fills : (listedIn doc).filterMap StyleItem.fill? =
    (itemsOf "fills" "fill" doc).map (Fill.ofParts ·.inside) := by
  refine filterMap_listedIn .fills (fun _ => .fill {}) nofun (fun _ => rfl) (fun e => ?_)
    fun item h => ?_
  · exact congrArg StyleItem.fill?
      (foldl_eventsOf (fun _ _ => rfl) (fun _ _ => rfl) (fun _ _ => rfl) _)
  · cases item <;> first | rfl | exact absurd rfl h

theorem filterMap_borders : (listedIn doc).filterMap StyleItem.borders? =
    (itemsOf "borders" "border" doc).map (Borders.ofParts ·.inside) := by
  refine filterMap_listedIn .borders (fun _ => .borders {}) nofun (fun _ => rfl) (fun e => ?_)
    fun item h => ?_
  · exact congrArg StyleItem.borders? (List.foldl_hom StyleItem.borders fun _ _ => rfl)
  · cases item <;> first | rfl | exact absurd rfl h

theorem filterMap_formats : (listedIn doc).filterMap StyleItem.format? =
    (itemsOf "cellXfs" "xf" doc).map CellFormat.ofElement := by
  refine filterMap_listedIn .formats (fun e => .format (.ofTag e.tag)) nofun (fun _ => rfl)
    (fun e => ?_) fun item h => ?_
  · exact congrArg StyleItem.format?
      (foldl_eventsOf (fun _ _ => rfl) (fun _ _ => rfl) (fun _ _ => rfl) _)
  · cases item <;> first | rfl | exact absurd rfl h

/-! ## The declared number formats -/

theorem map_tag_elementsNamed (name : String) (parts : List MarkupPart) :
    (elementsNamed name parts).map (·.tag) = (tagsOf parts).filter (isNamed ·.name name) := by
  rw [tagsOf, List.filter_map]
  rfl

theorem declaredIn_eq (doc : List MarkupPart) :
    declaredIn doc =
      ((elementsNamed "numFmt" doc).map (·.tag)).filterMap MarkupTag.declaration? := by
  rw [declaredIn, tagsOf, elementsNamed, List.filterMap_map, List.filterMap_map,
    List.filterMap_filter]
  refine List.filterMap_congr fun e _ => ?_
  cases h : e.isNamed "numFmt" with
  | true => rfl
  | false => exact MarkupTag.declaration?_eq_none h

/-- With distinct numbers the order of number formats does not matter. -/
theorem lookup_eq_of_perm {formats formats' : List (Nat × String)} (h : formats.Perm formats')
    (hn : (formats.map Prod.fst).Nodup) (id : Nat) : formats.lookup id = formats'.lookup id := by
  induction h with
  | nil => rfl
  | cons x _ ih =>
    rw [List.lookup_cons, List.lookup_cons, ih (List.nodup_cons.1 hn).2]
  | swap x y l =>
    obtain ⟨idx, codex⟩ := x
    obtain ⟨idy, codey⟩ := y
    have hne : idy ≠ idx := by
      simp only [List.map_cons, List.nodup_cons, List.mem_cons, not_or] at hn
      exact hn.1.1
    simp only [List.lookup_cons]
    cases hx : id == idx with
    | false => cases id == idy <;> rfl
    | true =>
      have hy : (id == idy) = false := by
        rw [eq_of_beq hx]
        exact beq_false_of_ne hne.symm
      rw [hy]
  | trans h _ ih ih' => exact (ih hn).trans (ih' ((h.map Prod.fst).nodup_iff.1 hn))

/-! ## The styles -/

namespace IsStyleSheet

theorem isList (h : IsStyleSheet doc) {w : StyleSection} (hw : w ≠ .other) {e : MarkupElement}
    (he : e ∈ elementsOf doc) (hs : StyleSection.ofTag? e.tag = some w) : w.IsList e.inside := by
  have hw' := StyleSection.mem_lists_iff.2 hw
  have hlist : e ∈ elementsNamed w.listName doc :=
    List.mem_filter.2 ⟨he, (StyleSection.ofTag?_eq_some_iff hw).1 hs⟩
  have hapart := h.apart w hw' e hlist
  intro item hitem
  refine ⟨hapart item hitem, fun hb x hx => ?_⟩
  -- what is inside an item is inside the list as well
  have hx' := mem_elementsOf_of_mem_inside hitem hx
  refine ⟨hapart x hx', ?_⟩
  have hname := (StyleSection.isSome_begin?_iff hw).1 hb
  have hflat := h.flat w hw' item
    (List.mem_flatMap.2 ⟨e, hlist, List.mem_filter.2 ⟨hitem, hname⟩⟩)
  rw [elementsNamed, List.filter_eq_nil_iff] at hflat
  rw [← Option.not_isSome_iff_eq_none, StyleSection.isSome_begin?_iff hw]
  exact hflat x hx

theorem ofEvents_eq (h : IsStyleSheet doc) :
    StyleTable.ofEvents (eventsOf doc) = ({} : StyleTable).extend (declaredIn doc) (listedIn doc) :=
  congrArg StyleScan.table
    (StyleScan.foldl_outside fun _ hw _ he hs => h.isList hw he hs)

theorem lookup_declaredIn (h : IsStyleSheet doc) (id : Nat) :
    (declaredIn doc).reverse.lookup id = (numberFormatsOf doc).lookup id := by
  have hperm : (numberFormatsOf doc).Perm (declaredIn doc).reverse := by
    rw [declaredIn_eq, numberFormatsOf, ← Function.comp_def, ← List.filterMap_map]
    exact (h.declared.filterMap _).symm.trans (List.reverse_perm _).symm
  exact (lookup_eq_of_perm hperm h.distinct id).symm

/-- The sections are the same in any order. -/
theorem elementsNamed_eq (h : IsStyleSheet doc) (hr : Rearranged sectionNames doc doc')
    {name : String} (hname : name ∈ sectionNames) :
    elementsNamed name doc' = elementsNamed name doc :=
  hr.elementsNamed_eq hname (h.single name hname)

theorem itemsOf_eq (h : IsStyleSheet doc) (hr : Rearranged sectionNames doc doc') {name : String}
    (hname : name ∈ sectionNames) (item : String) :
    itemsOf name item doc' = itemsOf name item doc := by
  rw [itemsOf, h.elementsNamed_eq hr hname, itemsOf]

theorem rearranged (h : IsStyleSheet doc) (hr : Rearranged sectionNames doc doc') :
    IsStyleSheet doc' where
  single name hname := by
    rw [h.elementsNamed_eq hr hname]
    exact h.single name hname
  apart w hw := by
    rw [h.elementsNamed_eq hr (listName_mem hw)]
    exact h.apart w hw
  flat w hw := by
    rw [h.itemsOf_eq hr (listName_mem hw)]
    exact h.flat w hw
  declared := by
    rw [h.itemsOf_eq hr numFmts_mem, map_tag_elementsNamed]
    refine (hr.perm_tagsOf.symm.filter _).trans ?_
    rw [← map_tag_elementsNamed]
    exact h.declared
  distinct := by
    rw [numberFormatsOf, h.itemsOf_eq hr numFmts_mem]
    exact h.distinct

/-- The style at the place of an element is the one that the table gives for its cell format. -/
theorem style_ofElement (h : IsStyleSheet doc) (e : MarkupElement) :
    (StyleTable.ofEvents (eventsOf doc)).style (.ofElement e) = styleOf doc e := by
  obtain ⟨hnumber, hfont, hfill, hborder⟩ :=
    CellFormat.references_foldl_read (tagsOf e.inside) (.ofTag e.tag)
  rw [h.ofEvents_eq]
  simp only [StyleTable.style, StyleTable.extend, StyleTable.numberFormat?, styleOf,
    CellFormat.ofElement, hnumber, hfont, hfill, hborder, filterMap_fonts, filterMap_fills,
    filterMap_borders, List.nil_append, List.append_nil, List.getElem?_map, h.lookup_declaredIn]
  rfl

/-- A cell format stands for the same style in any order of the sections. -/
theorem styleOf_eq (h : IsStyleSheet doc) (hr : Rearranged sectionNames doc doc') :
    styleOf doc' = styleOf doc := by
  have hitems : ∀ w ∈ StyleSection.lists,
      itemsOf w.listName w.itemName doc' = itemsOf w.listName w.itemName doc :=
    fun w hw => h.itemsOf_eq hr (listName_mem hw) _
  have hfonts : itemsOf "fonts" "font" doc' = itemsOf "fonts" "font" doc :=
    hitems .fonts (by decide)
  have hfills : itemsOf "fills" "fill" doc' = itemsOf "fills" "fill" doc :=
    hitems .fills (by decide)
  have hborders : itemsOf "borders" "border" doc' = itemsOf "borders" "border" doc :=
    hitems .borders (by decide)
  have hnumbers : numberFormatsOf doc' = numberFormatsOf doc := by
    rw [numberFormatsOf, h.itemsOf_eq hr numFmts_mem, numberFormatsOf]
  funext e
  simp only [styleOf, hfonts, hfills, hborders, hnumbers]

theorem styles_eq (h : IsStyleSheet doc) :
    (StyleTable.ofEvents (eventsOf doc)).styles =
      (itemsOf "cellXfs" "xf" doc).map (styleOf doc) := by
  have hformats : (StyleTable.ofEvents (eventsOf doc)).formats =
      (itemsOf "cellXfs" "xf" doc).map CellFormat.ofElement := by
    rw [h.ofEvents_eq, StyleTable.extend, filterMap_formats]
    rfl
  rw [StyleTable.styles, hformats, List.map_map]
  exact List.map_congr_left fun e _ => h.style_ofElement e

end IsStyleSheet

/-- A style sheet gives one style for each cell format, in the order of the document, with what its
references stand for; the order of the sections does not matter. -/
theorem StyleTable.styles_ofEvents (h : IsStyleSheet doc) :
    (StyleTable.ofEvents (eventsOf doc)).styles =
        (itemsOf "cellXfs" "xf" doc).map (styleOf doc) ∧
      ∀ doc', Rearranged sectionNames doc doc' →
        (StyleTable.ofEvents (eventsOf doc')).styles =
          (StyleTable.ofEvents (eventsOf doc)).styles := by
  refine ⟨h.styles_eq, fun doc' hr => ?_⟩
  rw [(h.rearranged hr).styles_eq, h.styles_eq, h.styleOf_eq hr, h.itemsOf_eq hr (by decide)]

/-- An element with the inside of its opening tag as it is written. -/
def MarkupPart.written (tag : String) (inside : List MarkupPart) : MarkupPart :=
  .element (openingTag .utf8 tag.toList) inside

/-- The sections of a style sheet, the cell formats in front of what they refer to. -/
def sampleSections : List MarkupPart :=
  [.written "dxfs" [.written "dxf" [.written "font" [.written "i" []]]],
    .written "cellXfs"
      [.written "xf numFmtId=\"164\" fontId=\"1\" fillId=\"1\" borderId=\"0\""
        [.written "alignment horizontal=\"center\"" []],
      .written "xf numFmtId=\"2\" fontId=\"7\" borderId=\"1\"" []],
    .written "cellStyleXfs" [.written "xf fontId=\"1\"" []],
    .written "fonts" [.written "font" [], .written "font" [.written "b" []]],
    .written "fills"
      [.written "fill" [.written "patternFill patternType=\"none\"" []],
      .written "fill" [.written "patternFill patternType=\"solid\""
        [.written "fgColor rgb=\"FF00FF00\"" []]]],
    .written "borders" [.written "border" [.written "left style=\"thin\"" []]],
    .written "numFmts" [.written "numFmt numFmtId=\"164\" formatCode=\"0.0\"" []]]

/-- A style sheet with some sections. -/
def sampleSheet (sections : List MarkupPart) : List MarkupPart := [.written "styleSheet" sections]

/-- Fonts and fills count from the first element on, also one that closes itself; formats elsewhere do
not count, and a reference beyond the end of a list stands for the default. -/
theorem StyleTable.styles_ofEvents_sample :
    IsStyleSheet (sampleSheet sampleSections) ∧
      (ofEvents (eventsOf (sampleSheet sampleSections))).styles =
        [{ font := { bold := true }, fill := .solid ⟨0, 255, 0, 255⟩, horizontal := .center,
           numberFormat := some "0.0", borders := { left := { line := .thin } } },
         { numberFormat := some "0.00" }] ∧
      (ofEvents (eventsOf (sampleSheet sampleSections.reverse))).styles =
        (ofEvents (eventsOf (sampleSheet sampleSections))).styles := by
  have hsheet : IsStyleSheet (sampleSheet sampleSections) := by decide +kernel
  obtain ⟨hstyles, horder⟩ := styles_ofEvents hsheet
  refine ⟨hsheet, ?_, horder _ ?_⟩
  · rw [hstyles]
    decide +kernel
  · exact .within [] [] (by decide) (.top (List.reverse_perm _).symm)

end SheetPress
