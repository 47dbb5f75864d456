import SheetPress.Package.Basic

/-!
# Texts in packages

Cells with equal texts share one entry in a list of texts. A text is written plainly or as runs in
different fonts; its reading aid, if it has one, does not belong to it.
-/

namespace SheetPress

/-- What was read of a text: whether the events are inside a reading aid, and the runs so far, if the
text consists of runs. -/
structure TextScan where
  inAid : Bool := false
  runs : Option (List Char) := none

/-- Reads a text up to a closing tag that has the name of the element that holds the text; a qualifier
in front of a closing name does not count. The first plain text is the whole text, and what follows
it counts for nothing; runs are joined. Without either there is no text. -/
def readText? (element : List Char) (s : TextScan) (events : List MarkupEvent) :
    Option (Option (List Char) × List MarkupEvent) :=
  match events with
  | [] => none
  | .text _ :: rest => readText? element s rest
  | .closing name :: rest =>
    if localName name = element then some (s.runs, rest)
    else if isNamed (localName name) "rPh" then readText? element { s with inAid := false } rest
    else readText? element s rest
  | .opening tag :: rest =>
    if isNamed tag.localName "r" then readText? element { s with runs := some (s.runs.getD []) } rest
    else if isNamed tag.localName "rPh" then readText? element { s with inAid := true } rest
    else if isNamed tag.localName "t" ∧ s.inAid = false then
      match h : textOfElement? tag.name rest with
      | none => none
      | some (text, behind) =>
        match s.runs with
        | none => (behindElement? element 0 behind).map fun rest => (some text, rest)
        | some runs =>
          have := textOfElement?_length_lt h
          readText? element { s with runs := some (runs ++ text) } behind
    else readText? element s rest
termination_by events.length

theorem readText?_length_lt {element : List Char} {s : TextScan} {events rest : List MarkupEvent}
    {text : Option (List Char)} (h : readText? element s events = some (text, rest)) :
    rest.length < events.length := by
  fun_induction readText? element s events with
  | case1 => cases h
  | case2 s raw rest ih => have := ih h; simp only [List.length_cons]; omega
  | case3 s rest => cases h; simp
  | case4 s name rest _ _ ih => have := ih h; simp only [List.length_cons]; omega
  | case5 s name rest _ _ ih => have := ih h; simp only [List.length_cons]; omega
  | case6 s tag rest _ ih => have := ih h; simp only [List.length_cons]; omega
  | case7 s tag rest _ _ ih => have := ih h; simp only [List.length_cons]; omega
  | case8 => cases h
  | case9 s tag rest _ _ _ text' behind ht hs =>
    simp only [Option.map_eq_some_iff, Prod.mk.injEq] at h
    obtain ⟨rest', h, -, rfl⟩ := h
    have h₁ := textOfElement?_length_lt ht
    have h₂ := behindElement?_length_lt h
    simp only [List.length_cons]
    omega
  | case10 s tag rest _ _ _ text' behind ht runs hs hlt ih =>
    have := ih h
    simp only [List.length_cons]
    omega
  | case11 s tag rest _ _ _ ih => have := ih h; simp only [List.length_cons]; omega

/-- The texts of the list that cells share. An entry without a text is left out. -/
def sharedTexts? (events : List MarkupEvent) : Option (List String) :=
  match events with
  | [] => none
  | .text _ :: rest => sharedTexts? rest
  | .closing name :: rest => if isNamed (localName name) "sst" then some [] else sharedTexts? rest
  | .opening tag :: rest =>
    if isNamed tag.localName "si" then
      match h : readText? tag.name {} rest with
      | none => none
      | some (text, behind) =>
        have := readText?_length_lt h
        (sharedTexts? behind).map fun texts => (text.map String.ofList).toList ++ texts
    else sharedTexts? rest
termination_by events.length

namespace Package

/-- The texts that the cells of a package share. -/
def sharedTexts? (p : Package) : Option (List String) :=
  match p.events? textsPart with
  | none => some []
  | some events => SheetPress.sharedTexts? events

end Package

end SheetPress
