import SheetPress.Proofs.Template.Colors

/-!
# Registries that grew from one

Two workbooks are made from one template, and each registers the styles that it needs.  The same style
can have one number here and another one there, but it has the same number in both if the template knew
it.

* `StyleRegistry.IsBuilt` — a registry that was made by the operations of registries; its lookup is
  right, and it has a default style.
* `StyleRegistry.SameStyle` — two numbers that mean the same: one of the template, or two new ones.
* `SameStyle.of_resolvedStyle` — the colors of one record give numbers that mean the same.
-/

namespace SheetPress

namespace StyleRegistry

/-! ## Registries that were built -/

/-- A registry made by the operations of registries.  A stored one has at least the default style. -/
inductive IsBuilt : StyleRegistry → Prop
  | initial : IsBuilt initial
  | stored {styles : Array CellStyle} (h : 0 < styles.size) : IsBuilt (ofStored styles)
  | getOrCreate {r : StyleRegistry} (h : r.IsBuilt) (style : CellStyle) :
    IsBuilt (r.getOrCreate style).2
  | push {r : StyleRegistry} (h : r.IsBuilt) (style : CellStyle) : IsBuilt (r.push style).2
  | rebuild {r : StyleRegistry} (h : r.IsBuilt) : IsBuilt r.rebuild
  | setDefault {r : StyleRegistry} (h : r.IsBuilt) (style : CellStyle) : IsBuilt (r.setDefault style)

variable {r r' base : StyleRegistry} {style style' : CellStyle} {id : Nat}

theorem lookup_addNumber {numbers : List (CellStyle × Nat)} {id' : Nat}
    (h : (addNumber numbers style id).lookup style' = some id') :
    numbers.lookup style' = some id' ∨ style' = style ∧ id' = id := by
  unfold addNumber at h
  split at h
  · exact .inl h
  · rw [List.lookup_cons] at h
    split at h
    · next heq => exact .inr ⟨eq_of_beq heq, (Option.some.inj h).symm⟩
    · exact .inl h

/-- A lookup that is built from a list of styles finds every style under its number. -/
theorem lookup_numbersFrom {styles : Array CellStyle} {numbers : List (CellStyle × Nat)} {first : Nat}
    {rest : List CellStyle} (hrest : styles.toList.drop first = rest)
    (hnumbers : ∀ style id, numbers.lookup style = some id → styles[id]? = some style)
    (h : (numbersFrom numbers first rest).lookup style = some id) : styles[id]? = some style := by
  induction rest generalizing numbers first with
  | nil => exact hnumbers style id h
  | cons head rest ih =>
    have hhead : styles[first]? = some head := by
      rw [← Array.getElem?_toList, ← Nat.add_zero first, ← List.getElem?_drop, hrest]
      rfl
    have hdrop : styles.toList.drop (first + 1) = rest := by
      rw [← List.drop_drop, hrest]
      rfl
    refine ih hdrop ?_ h
    intro style' id' hfound
    obtain hold | ⟨rfl, rfl⟩ := lookup_addNumber hfound
    · exact hnumbers style' id' hold
    · exact hhead

theorem coherent_rebuild (r : StyleRegistry) : r.rebuild.Coherent := by
  intro style id h
  exact lookup_numbersFrom (List.drop_zero ..) (fun _ _ h => by cases h) h

theorem Coherent.push (h : r.Coherent) (style : CellStyle) : (r.push style).2.Coherent := by
  intro style' id hid
  obtain hold | ⟨rfl, rfl⟩ := lookup_addNumber hid
  · have hstyle := h style' id hold
    obtain ⟨hlt, -⟩ := Array.getElem?_eq_some_iff.1 hstyle
    rw [StyleRegistry.push, Array.getElem?_push, if_neg hlt.ne, hstyle]
  · exact Array.getElem?_push_size

theorem IsBuilt.coherent (h : r.IsBuilt) : r.Coherent := by
  induction h with
  | initial =>
    intro style id h
    rw [number?, StyleRegistry.initial, List.lookup_cons] at h
    split at h
    · next heq =>
      rw [eq_of_beq heq, ← Option.some.inj h]
      rfl
    · cases h
  | stored _ =>
    intro style id h
    cases h
  | getOrCreate _ style ih => exact ih.getOrCreate style
  | push _ style ih => exact ih.push style
  | rebuild => exact coherent_rebuild _
  | setDefault => exact coherent_rebuild _

theorem size_le_getOrCreate (r : StyleRegistry) (style : CellStyle) :
    r.size ≤ (r.getOrCreate style).2.size := by
  unfold getOrCreate
  split
  · exact Nat.le_refl _
  · rw [size, size, Array.size_push]
    exact Nat.le_succ _

/-- There is a default style. -/
theorem IsBuilt.size_pos (h : r.IsBuilt) : 0 < r.size := by
  induction h with
  | initial => decide
  | stored h => exact h
  | @getOrCreate r _ style ih => exact Nat.lt_of_lt_of_le ih (r.size_le_getOrCreate style)
  | push => exact Nat.lt_of_lt_of_eq (Nat.succ_pos _) (Array.size_push _).symm
  | rebuild _ ih => exact ih
  | setDefault _ _ ih => exact Nat.lt_of_lt_of_eq ih Array.size_setIfInBounds.symm

/-! ## What growing keeps -/

theorem Grows.size_le (h : r.Grows r') : r.size ≤ r'.size := by
  induction h with
  | refl => exact Nat.le_refl _
  | tail _ hstep ih =>
    obtain ⟨style, rfl⟩ := hstep
    exact ih.trans (size_le_getOrCreate _ style)

/-- What one step finds was found before, or is new. -/
theorem number?_getOrCreate (r : StyleRegistry) (style style' : CellStyle) :
    (r.getOrCreate style).2.number? style' =
      if style' = style ∧ r.number? style = none then some r.size else r.number? style' := by
  unfold getOrCreate
  cases hknown : r.number? style with
  | some id => rw [if_neg fun h => Option.some_ne_none id h.2]
  | none =>
    rw [number?, List.lookup_cons]
    by_cases heq : style' = style
    · rw [heq, beq_self_eq_true, if_pos ⟨rfl, rfl⟩]
    · rw [beq_eq_false_iff_ne.2 heq, if_neg fun h => heq h.1]
      rfl

/-- A style that has a number keeps it. -/
theorem Grows.number?_eq_some (h : r.Grows r') (hid : r.number? style = some id) :
    r'.number? style = some id := by
  induction h with
  | refl => exact hid
  | tail _ hstep ih =>
    obtain ⟨style', rfl⟩ := hstep
    rw [number?_getOrCreate, if_neg, ih]
    rintro ⟨rfl, hnone⟩
    rw [ih] at hnone
    cases hnone

/-- A style that had no number gets a new one. -/
theorem Grows.size_le_of_number? (h : r.Grows r') (hnone : r.number? style = none)
    (hid : r'.number? style = some id) : r.size ≤ id := by
  induction h with
  | refl =>
    rw [hnone] at hid
    cases hid
  | tail hgrown hstep ih =>
    obtain ⟨style', rfl⟩ := hstep
    rw [number?_getOrCreate] at hid
    split at hid
    · rw [← Option.some.inj hid]
      exact Grows.size_le hgrown
    · exact ih hid

/-- The number that a style gets later: its number in the first registry, or a new one. -/
theorem Grows.getOrCreate_fst (h : r.Grows r') (style : CellStyle) :
    r.number? style = some (r'.getOrCreate style).1 ∨
      r.number? style = none ∧ r.size ≤ (r'.getOrCreate style).1 := by
  cases hknown : r.number? style with
  | some id =>
    rw [StyleRegistry.getOrCreate, h.number?_eq_some hknown]
    exact .inl rfl
  | none =>
    refine .inr ⟨rfl, ?_⟩
    unfold StyleRegistry.getOrCreate
    cases hfound : r'.number? style with
    | some id => exact h.size_le_of_number? hknown hfound
    | none => exact h.size_le

/-! ## Numbers that mean the same -/

/-- Numbers of two registries that grew from a base: the same number of the base, or two new ones for
one style. -/
def SameStyle (base r r' : StyleRegistry) (a b : Nat) : Prop :=
  a = b ∧ a < base.size ∨
    base.size ≤ a ∧ base.size ≤ b ∧ ∃ style, r.styles[a]? = some style ∧ r'.styles[b]? = some style

variable {a b : Nat}

theorem SameStyle.refl_of_lt (r r' : StyleRegistry) (h : id < base.size) :
    SameStyle base r r' id id :=
  .inl ⟨rfl, h⟩

/-- The default style stands out: its number means the same as no other. -/
theorem SameStyle.eq_zero_iff (h : SameStyle base r r' a b) (hbase : 0 < base.size) :
    a = 0 ↔ b = 0 := by
  obtain ⟨rfl, -⟩ | ⟨ha, hb, -⟩ := h
  · exact Iff.rfl
  · omega

theorem SameStyle.mono {last last' : StyleRegistry} (h : SameStyle base r r' a b)
    (hgrows : r.Grows last) (hgrows' : r'.Grows last') : SameStyle base last last' a b := by
  obtain hsame | ⟨ha, hb, style, hstyle, hstyle'⟩ := h
  · exact .inl hsame
  · exact .inr ⟨ha, hb, style, hgrows.getElem? hstyle, hgrows'.getElem? hstyle'⟩

theorem SameStyle.get_eq (h : SameStyle base r r' a b) (hgrows : base.Grows r)
    (hgrows' : base.Grows r') : r.get a = r'.get b := by
  have hget (r : StyleRegistry) {id : Nat} {style : CellStyle} (hid : r.styles[id]? = some style) :
      r.get id = style := by
    rw [get, hid, Option.getD_some]
  obtain ⟨rfl, hlt⟩ | ⟨-, -, style, hstyle, hstyle'⟩ := h
  · have hbase := Array.getElem?_eq_getElem hlt
    rw [hget r (hgrows.getElem? hbase), hget r' (hgrows'.getElem? hbase)]
  · rw [hget r hstyle, hget r' hstyle']

/-- A style that both register gets numbers that mean the same. -/
theorem SameStyle.getOrCreate (hbase : base.Coherent) (hgrows : base.Grows r)
    (hgrows' : base.Grows r') (style : CellStyle) :
    SameStyle base (r.getOrCreate style).2 (r'.getOrCreate style).2 (r.getOrCreate style).1
      (r'.getOrCreate style).1 := by
  obtain hknown | ⟨hnone, hnew⟩ := hgrows.getOrCreate_fst style
  · obtain hknown' | ⟨hnone', -⟩ := hgrows'.getOrCreate_fst style
    · refine .inl ⟨Option.some.inj (hknown.symm.trans hknown'), ?_⟩
      exact (Array.getElem?_eq_some_iff.1 (hbase style _ hknown)).1
    · rw [hknown] at hnone'
      cases hnone'
  · obtain hknown' | ⟨-, hnew'⟩ := hgrows'.getOrCreate_fst style
    · rw [hnone] at hknown'
      cases hknown'
    · exact .inr ⟨hnew, hnew', style, (hgrows.coherent hbase).getElem?_getOrCreate style,
        (hgrows'.coherent hbase).getElem?_getOrCreate style⟩

/-- The colors of one record give numbers that mean the same. -/
theorem SameStyle.of_resolvedStyle {first first' : StyleRegistry} {column : TableColumn}
    {record : Record} (hbase : base.Coherent) (hfirst : base.Grows first)
    (hfirst' : base.Grows first') (hid : id < base.size)
    (h : ResolvedStyle first r column id record a)
    (h' : ResolvedStyle first' r' column id record b) : SameStyle base r r' a b := by
  obtain ⟨background, font, hbackground, hfont, ha⟩ := h
  obtain ⟨background', font', hbackground', hfont', hb⟩ := h'
  obtain rfl := Except.ok.inj (hbackground.symm.trans hbackground')
  obtain rfl := Except.ok.inj (hfont.symm.trans hfont')
  split at ha
  · next hnone =>
    rw [if_pos hnone] at hb
    rw [ha, hb]
    exact .refl_of_lt r r' hid
  · next hcolor =>
    rw [if_neg hcolor] at hb
    obtain ⟨current, hgrown, hlast, rfl⟩ := ha
    obtain ⟨current', hgrown', hlast', rfl⟩ := hb
    -- Both start from the style that the number has in the base.
    have hcurrent := hfirst.trans hgrown
    have hcurrent' := hfirst'.trans hgrown'
    have hget := (SameStyle.refl_of_lt current current' hid).get_eq hcurrent hcurrent'
    rw [hget] at hlast ⊢
    exact (SameStyle.getOrCreate hbase hcurrent hcurrent' _).mono hlast hlast'

end StyleRegistry

end SheetPress
