import Mathlib
import SheetPress.Markup.Event

/-!
# Documents as trees

A document whose tags are all closed is a list of parts: texts, and elements with parts inside. Its
events are those of the parts one after another, each element between its two tags.

* `eventsOf`, `elementsOf` — the events of a document and its elements, in the order of their opening
  tags.
* `closesFrom_iff` — events that close all their tags are those of a document.
* `Rearranged` — documents that differ in the order of parts.
* `Rearranged.elementsNamed_eq` — an element that is the only one of its name, and whose inside was
  not touched, is in both.
-/

namespace SheetPress

/-- A part of a document: a text, or an element with its opening tag and the parts inside it. -/
inductive MarkupPart where
  | text (t : MarkupText)
  | element (tag : MarkupTag) (inside : List MarkupPart)

/-- An element of a document. -/
structure MarkupElement where
  tag : MarkupTag
  inside : List MarkupPart

mutual

/-- The events of a part. -/
def MarkupPart.events : MarkupPart → List MarkupEvent
  | .text t => [.text t]
  | .element tag inside => .opening tag :: (eventsOf inside ++ [.closing tag.name])

/-- The events of parts that follow one another. -/
def eventsOf : List MarkupPart → List MarkupEvent
  | [] => []
  | part :: rest => part.events ++ eventsOf rest

end

mutual

/-- The elements of a part, each in front of those inside it. -/
def MarkupPart.elements : MarkupPart → List MarkupElement
  | .text _ => []
  | .element tag inside => ⟨tag, inside⟩ :: elementsOf inside

/-- The elements of parts that follow one another. -/
def elementsOf : List MarkupPart → List MarkupElement
  | [] => []
  | part :: rest => part.elements ++ elementsOf rest

end

/-- The opening tags of parts. -/
def tagsOf (parts : List MarkupPart) : List MarkupTag := (elementsOf parts).map (·.tag)

/-- Whether an element has a name. -/
def MarkupElement.isNamed (e : MarkupElement) (name : String) : Bool :=
  SheetPress.isNamed e.tag.name name

/-- The elements with a name. -/
def elementsNamed (name : String) (parts : List MarkupPart) : List MarkupElement :=
  (elementsOf parts).filter (·.isNamed name)

/-- The elements of one name inside those of another. -/
def itemsOf (list item : String) (parts : List MarkupPart) : List MarkupElement :=
  (elementsNamed list parts).flatMap fun e => elementsNamed item e.inside

theorem isNamed_iff {text : List Char} {name : String} :
    isNamed text name = true ↔ text = name.toList := by
  rw [isNamed, beq_iff_eq]

section Lists

variable {tag : MarkupTag} {inside rest parts parts' : List MarkupPart}

@[simp] theorem eventsOf_nil : eventsOf [] = [] := rfl

@[simp] theorem eventsOf_text (t : MarkupText) :
    eventsOf (.text t :: rest) = .text t :: eventsOf rest := rfl

@[simp] theorem eventsOf_element :
    eventsOf (.element tag inside :: rest) =
      .opening tag :: (eventsOf inside ++ .closing tag.name :: eventsOf rest) := by
  simp [eventsOf, MarkupPart.events]

@[simp] theorem elementsOf_text (t : MarkupText) : elementsOf (.text t :: rest) = elementsOf rest :=
  rfl

@[simp] theorem elementsOf_element :
    elementsOf (.element tag inside :: rest) = ⟨tag, inside⟩ :: (elementsOf inside ++ elementsOf rest) :=
  rfl

@[simp] theorem tagsOf_text (t : MarkupText) : tagsOf (.text t :: rest) = tagsOf rest := rfl

@[simp] theorem tagsOf_element :
    tagsOf (.element tag inside :: rest) = tag :: (tagsOf inside ++ tagsOf rest) := by
  simp [tagsOf]

/-- Induction over a document, from the parts inside an element and those behind it to all of them. -/
@[elab_as_elim]
theorem parts_induction {P : List MarkupPart → Prop} (nil : P [])
    (text : ∀ t rest, P rest → P (.text t :: rest))
    (element : ∀ tag inside rest, P inside → P rest → P (.element tag inside :: rest)) :
    ∀ parts, P parts
  | [] => nil
  | .text t :: rest => text t rest (parts_induction nil text element rest)
  | .element tag inside :: rest =>
    element tag inside rest (parts_induction nil text element inside)
      (parts_induction nil text element rest)

/-- What a reader that passes over texts and closing tags gives depends on the opening tags only. `wrap`
is for readers that keep their state in a larger type. -/
theorem foldl_eventsOf {σ τ : Type*} {step : σ → MarkupEvent → σ} {wrap : τ → σ}
    {read : τ → MarkupTag → τ}
    (hopening : ∀ s tag, step (wrap s) (.opening tag) = wrap (read s tag))
    (hclosing : ∀ s name, step (wrap s) (.closing name) = wrap s)
    (htext : ∀ s t, step (wrap s) (.text t) = wrap s) (s : τ) :
    (eventsOf parts).foldl step (wrap s) = wrap ((tagsOf parts).foldl read s) := by
  induction parts using parts_induction generalizing s with
  | nil => rfl
  | text t rest ih => rw [eventsOf_text, List.foldl_cons, htext, ih, tagsOf_text]
  | element tag inside rest ihInside ihRest =>
    rw [eventsOf_element, List.foldl_cons, hopening, List.foldl_append, ihInside, List.foldl_cons,
      hclosing, ihRest, tagsOf_element, List.foldl_cons, List.foldl_append]

/-- An element inside an element of a document is an element of the document. -/
theorem mem_elementsOf_of_mem_inside {e inner : MarkupElement} (he : e ∈ elementsOf parts)
    (hinner : inner ∈ elementsOf e.inside) : inner ∈ elementsOf parts := by
  induction parts using parts_induction with
  | nil => exact absurd he List.not_mem_nil
  | text t rest ih => exact ih he
  | element tag inside rest ihInside ihRest =>
    rw [elementsOf_element, List.mem_cons, List.mem_append] at he ⊢
    rcases he with rfl | he | he
    · exact .inr (.inl hinner)
    · exact .inr (.inl (ihInside he))
    · exact .inr (.inr (ihRest he))

theorem elementsOf_eq_flatMap (parts : List MarkupPart) :
    elementsOf parts = parts.flatMap MarkupPart.elements := by
  induction parts with
  | nil => rfl
  | cons part rest ih => rw [elementsOf, ih, List.flatMap_cons]

theorem eventsOf_append (parts parts' : List MarkupPart) :
    eventsOf (parts ++ parts') = eventsOf parts ++ eventsOf parts' := by
  induction parts with
  | nil => rfl
  | cons part rest ih => rw [List.cons_append, eventsOf, eventsOf, ih, List.append_assoc]

theorem elementsOf_append (parts parts' : List MarkupPart) :
    elementsOf (parts ++ parts') = elementsOf parts ++ elementsOf parts' := by
  simp only [elementsOf_eq_flatMap, List.flatMap_append]

end Lists

/-! ## Balanced events -/

/-- Whether events close all tags, those in `opened` included, each closing tag the one opened last. -/
def closesFrom (opened : List (List Char)) : List MarkupEvent → Bool
  | [] => opened.isEmpty
  | .opening tag :: rest => closesFrom (tag.name :: opened) rest
  | .closing name :: rest =>
    match opened with
    | [] => false
    | last :: opened => last == name && closesFrom opened rest
  | .text _ :: rest => closesFrom opened rest

/-- Whether events are those of parts with a closing tag behind them for each tag that is open. -/
def ArePartsWithin : List (List Char) → List MarkupEvent → Prop
  | [], events => ∃ parts, eventsOf parts = events
  | name :: opened, events =>
    ∃ parts rest, eventsOf parts ++ .closing name :: rest = events ∧ ArePartsWithin opened rest

/-- Events stay those of parts when parts come in front of them. -/
theorem ArePartsWithin.append {opened : List (List Char)} {events : List MarkupEvent}
    (h : ArePartsWithin opened events) (front : List MarkupPart) :
    ArePartsWithin opened (eventsOf front ++ events) := by
  cases opened with
  | nil =>
    obtain ⟨parts, rfl⟩ := h
    exact ⟨front ++ parts, eventsOf_append front parts⟩
  | cons name opened =>
    obtain ⟨parts, rest, rfl, hrest⟩ := h
    exact ⟨front ++ parts, rest, by rw [eventsOf_append, List.append_assoc], hrest⟩

theorem arePartsWithin_of_closesFrom {opened : List (List Char)} {events : List MarkupEvent}
    (h : closesFrom opened events = true) : ArePartsWithin opened events := by
  induction events generalizing opened with
  | nil =>
    rw [closesFrom, List.isEmpty_iff] at h
    exact h ▸ ⟨[], rfl⟩
  | cons event rest ih =>
    cases event with
    | opening tag =>
      obtain ⟨inside, behind, rfl, hbehind⟩ := @ih (tag.name :: opened) h
      simpa using hbehind.append [.element tag inside]
    | closing name =>
      cases opened with
      | nil => cases h
      | cons last opened =>
        simp only [closesFrom, Bool.and_eq_true, beq_iff_eq] at h
        obtain ⟨rfl, h⟩ := h
        exact ⟨[], rest, rfl, ih h⟩
    | text t => exact (@ih opened h).append [.text t]

theorem closesFrom_eventsOf_append (opened : List (List Char)) (parts : List MarkupPart)
    (rest : List MarkupEvent) :
    closesFrom opened (eventsOf parts ++ rest) = closesFrom opened rest := by
  induction parts using parts_induction generalizing opened rest with
  | nil => rfl
  | text t parts ih => exact ih opened rest
  | element tag inside parts ihInside ihParts =>
    rw [eventsOf_element, List.cons_append, List.append_assoc, closesFrom, ihInside,
      List.cons_append, closesFrom, ihParts]
    simp

/-- The events that close all their tags in order are those of documents. -/
theorem closesFrom_iff (events : List MarkupEvent) :
    closesFrom [] events = true ↔ ∃ parts, eventsOf parts = events := by
  refine ⟨arePartsWithin_of_closesFrom, ?_⟩
  rintro ⟨parts, rfl⟩
  rw [← List.append_nil (eventsOf parts), closesFrom_eventsOf_append]
  rfl

/-! ## Parts in another order -/

/-- One document is the other with some parts in another order: at the top, or inside an element whose
name is none of the given ones. -/
inductive Rearranged (names : List String) : List MarkupPart → List MarkupPart → Prop
  | top {parts parts'} (h : parts.Perm parts') : Rearranged names parts parts'
  | within {tag inside inside'} (before after : List MarkupPart)
      (htag : ∀ name ∈ names, isNamed tag.name name = false)
      (h : Rearranged names inside inside') :
      Rearranged names (before ++ .element tag inside :: after)
        (before ++ .element tag inside' :: after)

namespace Rearranged

variable {names : List String} {parts parts' : List MarkupPart} {name : String}

theorem perm_tagsOf (h : Rearranged names parts parts') : (tagsOf parts).Perm (tagsOf parts') := by
  induction h with
  | top h =>
    unfold tagsOf
    simp only [elementsOf_eq_flatMap]
    exact (h.flatMap_right _).map _
  | @within tag inside inside' before after _ _ ih =>
    unfold tagsOf at ih ⊢
    simp only [elementsOf_append, elementsOf, MarkupPart.elements, List.map_append, List.map_cons]
    exact ((ih.cons tag).append_right _).append_left _

/-- Elements whose inside was not touched are the same, in another order. -/
theorem perm_elementsNamed (h : Rearranged names parts parts') (hname : name ∈ names) :
    (elementsNamed name parts).Perm (elementsNamed name parts') := by
  induction h with
  | top h =>
    unfold elementsNamed
    simp only [elementsOf_eq_flatMap]
    exact (h.flatMap_right _).filter _
  | @within tag inside inside' before after htag _ ih =>
    have hout : ∀ inside, MarkupElement.isNamed ⟨tag, inside⟩ name = false :=
      fun _ => htag name hname
    unfold elementsNamed at ih ⊢
    simp only [elementsOf_append, elementsOf, MarkupPart.elements, List.filter_append,
      List.cons_append, List.filter_cons, hout, Bool.false_eq_true, if_false]
    exact (ih.append_right _).append_left _

/-- The only element of a name is the same. -/
theorem elementsNamed_eq (h : Rearranged names parts parts') (hname : name ∈ names)
    (hsingle : (elementsNamed name parts).length ≤ 1) :
    elementsNamed name parts' = elementsNamed name parts := by
  have hperm := h.perm_elementsNamed hname
  generalize elementsNamed name parts = found at hperm hsingle
  match found, hsingle with
  | [], _ => exact List.nil_perm.1 hperm
  | [e], _ => exact List.singleton_perm.1 hperm |>.symm ▸ rfl

theorem itemsOf_eq (h : Rearranged names parts parts') (hname : name ∈ names)
    (hsingle : (elementsNamed name parts).length ≤ 1) (item : String) :
    itemsOf name item parts' = itemsOf name item parts := by
  rw [itemsOf, itemsOf, h.elementsNamed_eq hname hsingle]

end Rearranged

end SheetPress
