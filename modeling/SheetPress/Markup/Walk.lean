import SheetPress.Markup.Event

/-!
# Walking through events

Readers of documents take events from the front of a list and give back the ones behind. What they
give back is never longer than what they got, which is why they come to an end.
-/

namespace SheetPress

/-- The events behind the closing tag of an element whose opening tag was read. `depth` counts the
elements of the same name that are open inside it. -/
def behindElement? (name : List Char) (depth : Nat) : List MarkupEvent → Option (List MarkupEvent)
  | [] => none
  | .opening tag :: rest =>
    behindElement? name (if tag.name = name then depth + 1 else depth) rest
  | .closing other :: rest =>
    if other = name then if depth = 0 then some rest else behindElement? name (depth - 1) rest
    else behindElement? name depth rest
  | .text _ :: rest => behindElement? name depth rest

/-- The texts up to the first closing tag of a name, joined, with the events behind it. All of them
have to be readable. -/
def textOfElement? (name : List Char) : List MarkupEvent → Option (List Char × List MarkupEvent)
  | [] => none
  | .opening _ :: rest => textOfElement? name rest
  | .closing other :: rest => if other = name then some ([], rest) else textOfElement? name rest
  | .text t :: rest => do
    let decoded ← t.decoded?
    let (behind, rest) ← textOfElement? name rest
    some (decoded ++ behind, rest)

theorem behindElement?_length_lt {name : List Char} {depth : Nat} {events rest : List MarkupEvent}
    (h : behindElement? name depth events = some rest) : rest.length < events.length := by
  fun_induction behindElement? name depth events with
  | case1 => cases h
  | case2 depth tag rest ih => have := ih h; simp only [List.length_cons]; omega
  | case3 => cases h; simp
  | case4 depth rest _ ih => have := ih h; simp only [List.length_cons]; omega
  | case5 depth other rest _ ih => have := ih h; simp only [List.length_cons]; omega
  | case6 depth raw rest ih => have := ih h; simp only [List.length_cons]; omega

theorem textOfElement?_length_lt {name text : List Char} {events rest : List MarkupEvent}
    (h : textOfElement? name events = some (text, rest)) : rest.length < events.length := by
  induction events generalizing text with
  | nil => cases h
  | cons e events ih =>
    simp only [List.length_cons]
    unfold textOfElement? at h
    split at h
    · simp_all
    · rename_i heq
      cases heq
      have := ih h
      omega
    · rename_i heq
      cases heq
      split at h
      · cases h
        omega
      · have := ih h
        omega
    · rename_i heq
      cases heq
      simp only [Option.bind_eq_bind, Option.bind_eq_some_iff, Option.some.injEq,
        Prod.mk.injEq, Prod.exists] at h
      obtain ⟨decoded, -, behind, rest', h, -, rfl⟩ := h
      have := ih h
      omega

end SheetPress
