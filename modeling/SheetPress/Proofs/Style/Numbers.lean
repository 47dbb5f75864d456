import SheetPress.Package.StyleTable
import SheetPress.Proofs.Template.StyleCaches

/-!
# Numbers of styles

A registry finds a style again by a lookup beside the list of its styles.  Whatever is done to a new
registry, the two agree: the lookup holds each style with the lowest of its numbers, and nothing
else.  So a style is registered once however often it is asked for, and a number that was given out
keeps its meaning, but for the number of the default style.

* `Indexes` — a lookup that holds the first positions of the styles at the front of a list.
* `isIndexed_after` — the lookup of a registry is such a one for all of its styles.
* `numbers_settled` — what this says of the numbers of a registry, a loaded one included.
-/

namespace SheetPress

namespace StyleRegistry

/-! ## First positions -/

/-- A style stands at a position of a list of styles and nowhere before it. -/
def FirstAt (styles : Array CellStyle) (style : CellStyle) (id : Nat) : Prop :=
  styles[id]? = some style ∧ ∀ j < id, styles[j]? ≠ some style

section FirstAt

variable {styles : Array CellStyle} {style added : CellStyle} {id id' : Nat}

theorem FirstAt.lt_size (h : FirstAt styles style id) : id < styles.size :=
  (Array.getElem?_eq_some_iff.1 h.1).1

theorem FirstAt.eq (h : FirstAt styles style id) (h' : FirstAt styles style id') : id = id' := by
  rcases Nat.lt_trichotomy id id' with hlt | heq | hgt
  · exact absurd h.1 (h'.2 id hlt)
  · exact heq
  · exact absurd h'.1 (h.2 id' hgt)

/-- A style that stands somewhere has a first position. -/
theorem exists_firstAt (h : styles[id]? = some style) : ∃ first ≤ id, FirstAt styles style first := by
  classical
  have hsome : ∃ j, styles[j]? = some style := ⟨id, h⟩
  exact ⟨Nat.find hsome, Nat.find_le h, Nat.find_spec hsome, fun j hj => Nat.find_min hsome hj⟩

/-- A style at the end of a list takes no first position from another one. -/
theorem firstAt_push_iff (h : id < styles.size) :
    FirstAt (styles.push added) style id ↔ FirstAt styles style id := by
  have hsame (j : Nat) (hj : j ≤ id) : (styles.push added)[j]? = styles[j]? := by
    rw [Array.getElem?_push, if_neg (Nat.ne_of_lt (Nat.lt_of_le_of_lt hj h))]
  unfold FirstAt
  rw [hsame id (Nat.le_refl id)]
  exact and_congr_right fun _ => forall₂_congr fun j hj => by rw [hsame j (Nat.le_of_lt hj)]

end FirstAt

/-! ## Lookups -/

/-- A lookup holds the first positions of the styles at the front of a list, and nothing else. -/
def Indexes (styles : Array CellStyle) (count : Nat) (numbers : List (CellStyle × Nat)) : Prop :=
  ∀ style id, (style, id) ∈ numbers ↔ id < count ∧ FirstAt styles style id

section Indexes

variable {styles : Array CellStyle} {count : Nat} {numbers : List (CellStyle × Nat)}
  {style added : CellStyle} {id : Nat}

theorem mem_of_lookup (h : numbers.lookup style = some id) : (style, id) ∈ numbers := by
  obtain ⟨front, behind, rfl, -⟩ := List.lookup_eq_some_iff.1 h
  simp

/-- What such a lookup finds. -/
theorem Indexes.lookup_eq_some_iff (h : Indexes styles count numbers) :
    numbers.lookup style = some id ↔ id < count ∧ FirstAt styles style id := by
  constructor
  · exact fun hid => (h style id).1 (mem_of_lookup hid)
  · intro hfirst
    have hmem := (h style id).2 hfirst
    cases hfound : numbers.lookup style with
    | none =>
      have habsent := List.lookup_eq_none_iff.1 hfound (style, id) hmem
      simp at habsent
    | some id' =>
      have hfirst' := (h style id').1 (mem_of_lookup hfound)
      rw [hfirst'.2.eq hfirst.2]

/-- The lookup of one more style. -/
theorem Indexes.addNumber (h : Indexes styles count numbers) (hstyle : styles[count]? = some added) :
    Indexes styles (count + 1) (addNumber numbers added count) := by
  have hcount : FirstAt styles added count ↔ numbers.lookup added = none := by
    rw [Option.eq_none_iff_forall_ne_some]
    constructor
    · intro hfirst id hid
      obtain ⟨hlt, hfirst'⟩ := h.lookup_eq_some_iff.1 hid
      exact absurd (hfirst.eq hfirst') hlt.ne'
    · intro hnone
      obtain ⟨first, hle, hfirst⟩ := exists_firstAt hstyle
      rcases Nat.lt_or_eq_of_le hle with hlt | rfl
      · exact absurd (h.lookup_eq_some_iff.2 ⟨hlt, hfirst⟩) (hnone first)
      · exact hfirst
  have hsplit (style : CellStyle) (id : Nat) : id < count + 1 ∧ FirstAt styles style id ↔
      (style, id) ∈ numbers ∨ (style, id) = (added, count) ∧ FirstAt styles added count := by
    rw [h style id, Nat.lt_succ_iff_lt_or_eq, or_and_right]
    refine or_congr Iff.rfl ⟨?_, ?_⟩
    · rintro ⟨rfl, hfirst⟩
      obtain rfl := Option.some.inj (hfirst.1.symm.trans hstyle)
      exact ⟨rfl, hfirst⟩
    · rintro ⟨heq, hfirst⟩
      obtain ⟨rfl, rfl⟩ := Prod.mk.inj heq
      exact ⟨rfl, hfirst⟩
  intro style id
  rw [hsplit, hcount, StyleRegistry.addNumber]
  cases hknown : numbers.lookup added with
  | none => simp [or_comm]
  | some known => simp

/-- The lookup that is built from a list of styles. -/
theorem Indexes.numbersFrom {first : Nat} {rest : List CellStyle} (h : Indexes styles first numbers)
    (hrest : styles.toList.drop first = rest) :
    Indexes styles (first + rest.length) (numbersFrom numbers first rest) := by
  induction rest generalizing numbers first with
  | nil => exact h
  | cons head rest ih =>
    have hhead : styles[first]? = some head := by
      rw [← Array.getElem?_toList, ← Nat.add_zero first, ← List.getElem?_drop, hrest]
      rfl
    have hdrop : styles.toList.drop (first + 1) = rest := by
      rw [← List.drop_drop, hrest]
      rfl
    have hnext := ih (h.addNumber hhead) hdrop
    rwa [Nat.add_assoc, Nat.add_comm 1] at hnext

end Indexes

/-! ## Registries -/

variable {r : StyleRegistry} {style : CellStyle} {id : Nat}

/-- The lookup of a registry holds every style with the lowest of its numbers, and nothing else. -/
def IsIndexed (r : StyleRegistry) : Prop := Indexes r.styles r.size r.numbers

theorem IsIndexed.mem_numbers_iff (h : r.IsIndexed) :
    (style, id) ∈ r.numbers ↔ FirstAt r.styles style id :=
  (h style id).trans (and_iff_right_of_imp FirstAt.lt_size)

theorem IsIndexed.number?_eq_some_iff (h : r.IsIndexed) :
    r.number? style = some id ↔ FirstAt r.styles style id :=
  h.lookup_eq_some_iff.trans (and_iff_right_of_imp FirstAt.lt_size)

theorem IsIndexed.number?_eq_none_iff (h : r.IsIndexed) :
    r.number? style = none ↔ style ∉ r.styles := by
  rw [Option.eq_none_iff_forall_ne_some, Array.mem_iff_getElem?]
  constructor
  · rintro hnone ⟨id, hid⟩
    obtain ⟨first, -, hfirst⟩ := exists_firstAt hid
    exact hnone first (h.number?_eq_some_iff.2 hfirst)
  · intro habsent id hid
    exact habsent ⟨id, (h.number?_eq_some_iff.1 hid).1⟩

theorem isIndexed_rebuild (r : StyleRegistry) : r.rebuild.IsIndexed := by
  have hnone : Indexes r.styles 0 [] := by
    intro style id
    simp
  have hall := hnone.numbersFrom (List.drop_zero ..)
  rwa [Nat.zero_add, Array.length_toList] at hall

theorem isIndexed_initial : initial.IsIndexed := isIndexed_rebuild initial

theorem IsIndexed.push (h : r.IsIndexed) (style : CellStyle) : (r.push style).2.IsIndexed := by
  have hfront : Indexes (r.styles.push style) r.size r.numbers := fun style' id => by
    rw [h style' id]
    exact and_congr_right fun hlt => (firstAt_push_iff hlt).symm
  have hback := hfront.addNumber Array.getElem?_push_size
  rwa [← show (r.push style).2.size = r.size + 1 from Array.size_push style] at hback

/-- A style that is not found is registered as every new one. -/
theorem getOrCreate_eq_push (h : r.number? style = none) : r.getOrCreate style = r.push style := by
  have hlookup : r.numbers.lookup style = none := h
  rw [getOrCreate, h, StyleRegistry.push, addNumber, hlookup]
  rfl

/-- Asking for a style registers it if it was not there. -/
theorem IsIndexed.styles_getOrCreate (h : r.IsIndexed) (style : CellStyle) :
    (r.getOrCreate style).2.styles = if style ∈ r.styles then r.styles else r.styles.push style := by
  cases hknown : r.number? style with
  | some id =>
    have hmem : style ∈ r.styles := Array.mem_of_getElem? (h.number?_eq_some_iff.1 hknown).1
    rw [getOrCreate_eq_of_number? hknown, if_pos hmem]
  | none =>
    rw [getOrCreate_eq_push hknown, if_neg (h.number?_eq_none_iff.1 hknown)]
    rfl

theorem IsIndexed.getOrCreate (h : r.IsIndexed) (style : CellStyle) :
    (r.getOrCreate style).2.IsIndexed := by
  cases hknown : r.number? style with
  | some id => rwa [getOrCreate_eq_of_number? hknown]
  | none =>
    rw [getOrCreate_eq_push hknown]
    exact h.push style

/-- Something that is done to a registry. -/
inductive Change where
  | getOrCreate (style : CellStyle)
  | push (style : CellStyle)
  | setDefault (style : CellStyle)
  | rebuild
  deriving DecidableEq, Repr

/-- A registry after a change. -/
def change (r : StyleRegistry) : Change → StyleRegistry
  | .getOrCreate style => (r.getOrCreate style).2
  | .push style => (r.push style).2
  | .setDefault style => r.setDefault style
  | .rebuild => r.rebuild

/-- A registry after some changes. -/
def after (r : StyleRegistry) (changes : List Change) : StyleRegistry := changes.foldl change r

theorem IsIndexed.change (h : r.IsIndexed) (c : Change) : (r.change c).IsIndexed := by
  cases c with
  | getOrCreate style => exact h.getOrCreate style
  | push style => exact h.push style
  | setDefault style => exact isIndexed_rebuild _
  | rebuild => exact isIndexed_rebuild r

theorem isIndexed_after (changes : List Change) : (initial.after changes).IsIndexed := by
  have hrun (r : StyleRegistry) (h : r.IsIndexed) : (r.after changes).IsIndexed := by
    induction changes generalizing r with
    | nil => exact h
    | cons c changes ih => exact ih _ (h.change c)
  exact hrun initial isIndexed_initial

/-! ## What numbers keep -/

theorem getElem?_push (h : r.styles[id]? = some style) (added : CellStyle) :
    (r.push added).2.styles[id]? = some style := by
  have hlt := (Array.getElem?_eq_some_iff.1 h).1
  rw [push, Array.getElem?_push, if_neg hlt.ne, h]

/-- A change leaves the styles at their numbers, but for a new default style. -/
theorem getElem?_change {c : Change} (h : r.styles[id]? = some style)
    (hdefault : id = 0 → ∀ new, c ≠ .setDefault new) : (r.change c).styles[id]? = some style := by
  cases c with
  | getOrCreate added => exact getElem?_getOrCreate h
  | push added => exact getElem?_push h added
  | rebuild => exact h
  | setDefault new =>
    have hne : (0 : Nat) ≠ id := fun h0 => hdefault h0.symm new rfl
    show (r.styles.setIfInBounds 0 new)[id]? = some style
    rw [Array.getElem?_setIfInBounds_ne hne, h]

theorem getElem?_after {changes : List Change} (h : r.styles[id]? = some style)
    (hdefault : id = 0 → ∀ new, .setDefault new ∉ changes) :
    (r.after changes).styles[id]? = some style := by
  induction changes generalizing r with
  | nil => exact h
  | cons c changes ih =>
    refine ih (getElem?_change h fun h0 new heq => ?_) fun h0 new hmem => ?_
    · exact hdefault h0 new (heq ▸ List.mem_cons_self ..)
    · exact hdefault h0 new (List.mem_cons_of_mem _ hmem)

theorem size_le_change (r : StyleRegistry) (c : Change) : r.size ≤ (r.change c).size := by
  cases c with
  | getOrCreate style => exact r.size_le_getOrCreate style
  | push style =>
    exact Nat.le_of_lt (Nat.lt_of_lt_of_eq (Nat.lt_succ_self _) (Array.size_push _).symm)
  | setDefault style => exact Array.size_setIfInBounds.ge
  | rebuild => exact Nat.le_refl _

theorem size_le_after (r : StyleRegistry) (changes : List Change) :
    r.size ≤ (r.after changes).size := by
  induction changes generalizing r with
  | nil => exact Nat.le_refl _
  | cons c changes ih => exact (r.size_le_change c).trans (ih _)

theorem contains_after (h : r.contains id = true) (changes : List Change) :
    (r.after changes).contains id = true :=
  decide_eq_true (Nat.lt_of_lt_of_le (of_decide_eq_true h) (r.size_le_after changes))

/-- Numbers keep their styles, but for the default style when it is replaced. -/
theorem get_after {changes : List Change} (h : r.contains id = true)
    (hdefault : id = 0 → ∀ style, .setDefault style ∉ changes) :
    (r.after changes).get id = r.get id := by
  obtain ⟨style, hstyle⟩ := getElem?_of_contains h
  rw [get_eq_of_getElem? hstyle, get_eq_of_getElem? (getElem?_after hstyle hdefault)]

theorem get_setDefault (hsize : 0 < r.size) (style : CellStyle) :
    (r.setDefault style).get 0 = style := by
  refine get_eq_of_getElem? ?_
  show (r.styles.setIfInBounds 0 style)[0]? = some style
  rw [Array.getElem?_setIfInBounds_self_of_lt hsize]

/-! ## Registries of style tables -/

theorem styles_after_push (r : StyleRegistry) (rest : List CellStyle) :
    (r.after (rest.map .push)).styles = r.styles ++ rest.toArray := by
  induction rest generalizing r with
  | nil => simp [after]
  | cons style rest ih =>
    show ((r.push style).2.after (rest.map .push)).styles = _
    rw [ih, push]
    simp

/-- How a list of styles comes into a registry: the first one is the default. -/
def loading : List CellStyle → List Change
  | [] => []
  | first :: rest => .setDefault first :: rest.map .push

theorem registry_eq_after (table : StyleTable) :
    table.registry = initial.after (loading table.styles) := by
  unfold StyleTable.registry
  cases table.styles with
  | nil => rfl
  | cons first rest =>
    show rest.foldl (fun r style => (r.push style).2) (initial.setDefault first) =
      (rest.map Change.push).foldl change (initial.setDefault first)
    rw [List.foldl_map]
    rfl

/-- Every style of a table has its position as number. -/
theorem styles_registry {table : StyleTable} (h : table.styles ≠ []) :
    table.registry.styles = table.styles.toArray := by
  rw [registry_eq_after]
  obtain ⟨first, rest, hstyles⟩ := List.exists_cons_of_ne_nil h
  rw [hstyles]
  show ((initial.setDefault first).after (rest.map .push)).styles = _
  rw [styles_after_push, show (initial.setDefault first).styles = #[first] from rfl,
    List.append_toArray]
  rfl

theorem getElem?_registry {table : StyleTable} (h : table.styles[id]? = some style) :
    table.registry.styles[id]? = some style := by
  have hne : table.styles ≠ [] := by
    intro hnil
    rw [hnil] at h
    cases h
  rw [styles_registry hne, List.getElem?_toArray, h]

/-! ## Settled numbers -/

/-- A new registry, whatever is done to it, finds each style under the lowest of its numbers and finds
no other style.  A style that is asked for has that number, and is registered only if it was not
there.  Later changes leave every number to its style, but for the default style when it is replaced.
The registry of a style table is such a registry, with the position of each style as its number. -/
theorem numbers_settled (changes : List Change) :
    let r := initial.after changes
    (∀ style id, ((style, id) ∈ r.numbers ↔ FirstAt r.styles style id) ∧
      (r.number? style = some id ↔ FirstAt r.styles style id)) ∧
    (∀ style, FirstAt (r.getOrCreate style).2.styles style (r.getOrCreate style).1 ∧
      (r.getOrCreate style).2.styles =
        if style ∈ r.styles then r.styles else r.styles.push style) ∧
    (∀ later id, r.contains id = true → (r.after later).contains id = true ∧
      ((id = 0 → ∀ style, .setDefault style ∉ later) → (r.after later).get id = r.get id)) ∧
    (∀ style, (r.setDefault style).get 0 = style) ∧
    ∀ table : StyleTable, table.registry = initial.after (loading table.styles) ∧
      ∀ id style, table.styles[id]? = some style →
        table.registry.contains id = true ∧ table.registry.get id = style := by
  intro r
  have hindexed : r.IsIndexed := isIndexed_after changes
  have hsize : 0 < r.size := Nat.lt_of_lt_of_le (by decide) (size_le_after initial changes)
  refine ⟨fun style id => ⟨hindexed.mem_numbers_iff, hindexed.number?_eq_some_iff⟩,
    fun style => ⟨?_, hindexed.styles_getOrCreate style⟩,
    fun later id hid => ⟨contains_after hid later, get_after hid⟩, get_setDefault hsize,
    fun table => ⟨registry_eq_after table, fun id style hstyle => ?_⟩⟩
  · exact (hindexed.getOrCreate style).number?_eq_some_iff.1 (number?_getOrCreate_self r style)
  · have hfound := getElem?_registry hstyle
    exact ⟨decide_eq_true (Array.getElem?_eq_some_iff.1 hfound).1, get_eq_of_getElem? hfound⟩

/-- A style in bold. -/
def boldStyle : CellStyle := { font := { bold := true } }

/-- A new default style takes over the lookup from its copies, and the old one is registered again. -/
theorem numbers_settled_copies :
    let r := initial.after [.push boldStyle, .push boldStyle, .setDefault boldStyle, .getOrCreate {}]
    r.styles = #[boldStyle, boldStyle, boldStyle, {}] ∧ FirstAt r.styles boldStyle 0 ∧
      FirstAt r.styles {} 3 ∧ (r.after [.setDefault {}]).get 3 = r.get 3 := by
  intro r
  have hsettled := numbers_settled
    [.push boldStyle, .push boldStyle, .setDefault boldStyle, .getOrCreate {}]
  have hbold : r.number? boldStyle = some 0 := by decide
  have hdefault : r.number? {} = some 3 := by decide
  have hcontains : r.contains 3 = true := by decide
  exact ⟨by decide, (hsettled.1 boldStyle 0).2.1 hbold, (hsettled.1 {} 3).2.1 hdefault,
    (hsettled.2.2.1 [.setDefault {}] 3 hcontains).2 fun h => absurd h (by decide)⟩

end StyleRegistry

end SheetPress
