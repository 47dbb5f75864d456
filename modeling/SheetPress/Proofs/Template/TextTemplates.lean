import SheetPress.Proofs.Text.Pairs

/-!
# Text templates, cut and joined

A text is cut at its actions: each begins at the first pair of opening braces behind the one before,
and ends at the first pair of closing braces.  Cutting goes by first pairs only, so that two texts may
be written behind each other unless a pair comes up at the seam.

* `Action.ofBody_cases` — an action, and the text between its braces.
* `TextTemplate.CutsTo` — a text and what it is cut into.
* `TextTemplate.cutsTo_ofText` — a text that renders is cut so.
* `TextTemplate.CutsTo.append`, `TextTemplate.renderFrom_append` — cutting and rendering two texts that
  are written behind each other.
* `renderText_append` — rendering distributes over concatenation.
-/

namespace SheetPress

/-- What an action holds of the text between its braces.  A dash at an end is taken off if it is set off
by white space, first at the front and then at the back. -/
theorem Action.ofBody_cases (body : List Char) :
    ∃ opened,
      (opened = body ∧ (ofBody body).trimsBefore = false ∨
        ∃ c rest, isBlank c = true ∧ body = '-' :: c :: rest ∧ opened = c :: rest ∧
          (ofBody body).trimsBefore = true) ∧
      ((ofBody body).text = opened ∧ (ofBody body).trimsAfter = false ∨
        ∃ rest c, isBlank c = true ∧ opened = rest ++ [c, '-'] ∧
          (ofBody body).text = rest ++ [c] ∧ (ofBody body).trimsAfter = true) := by
  fun_cases Action.ofBody body
  case' case1 trims opened hopened c rest hback hc =>
    rw [List.reverse_eq_iff, List.reverse_cons, List.reverse_cons, List.append_assoc] at hback
    refine ⟨opened, ?_, .inr ⟨rest.reverse, c, hc, hback, List.reverse_cons, rfl⟩⟩
  case' case2 trims opened hopened _ _ _ _ => refine ⟨opened, ?_, .inl ⟨rfl, rfl⟩⟩
  case' case3 trims opened hopened _ => refine ⟨opened, ?_, .inl ⟨rfl, rfl⟩⟩
  -- the back is settled, and the front is the same in each case
  all_goals
    split at hopened
    · split at hopened
      · next hc =>
        obtain ⟨rfl, rfl⟩ := Prod.mk.inj hopened
        exact .inr ⟨_, _, hc, rfl, rfl, rfl⟩
      · exact .inl ⟨(Prod.mk.inj hopened).2.symm, (Prod.mk.inj hopened).1.symm⟩
    · exact .inl ⟨(Prod.mk.inj hopened).2.symm, (Prod.mk.inj hopened).1.symm⟩

namespace TextTemplate

/-- The actions of a template in order. -/
def actions : TextTemplate → List Action
  | tail _ => []
  | action _ a rest => a :: rest.actions
  | unclosed _ => []

/-- A text whose actions are all closed, and what it is cut into. -/
inductive CutsTo : List Char → TextTemplate → Prop
  | tail {text : List Char} (htext : NoPair '{' text) : CutsTo text (.tail text)
  | action {before body rest : List Char} {t : TextTemplate}
      (hbefore : NoPair '{' (before ++ ['{'])) (hbody : NoPair '}' (body ++ ['}']))
      (hrest : CutsTo rest t) :
      CutsTo (before ++ openBraces ++ (body ++ closeBraces ++ rest))
        (.action before (.ofBody body) t)

/-! ## Cutting -/

section Cutting

variable {before opened body rest text : List Char} {t : TextTemplate}

theorem ofText_of_noPair (h : NoPair '{' text) : ofText text = .tail text := by
  rw [ofText]
  split
  · rfl
  · next hsplit =>
    rw [openBraces, splitAtFirst?_pair_eq_none_iff.2 h] at hsplit
    cases hsplit

theorem splitAtFirst?_openBraces (h : NoPair '{' (before ++ ['{'])) :
    splitAtFirst? openBraces (before ++ openBraces ++ opened) = some (before, opened) :=
  splitAtFirst?_pair_eq_some_iff.2 ⟨rfl, h⟩

theorem ofText_unclosed (hbefore : NoPair '{' (before ++ ['{'])) (hopened : NoPair '}' opened) :
    ofText (before ++ openBraces ++ opened) = .unclosed before := by
  rw [ofText]
  split
  · next hsplit =>
    rw [splitAtFirst?_openBraces hbefore] at hsplit
    cases hsplit
  · next before' opened' hsplit =>
    rw [splitAtFirst?_openBraces hbefore] at hsplit
    obtain ⟨rfl, rfl⟩ := Prod.mk.inj (Option.some.inj hsplit)
    split
    · rfl
    · next hclose =>
      rw [closeBraces, splitAtFirst?_pair_eq_none_iff.2 hopened] at hclose
      cases hclose

theorem ofText_action (hbefore : NoPair '{' (before ++ ['{'])) (hbody : NoPair '}' (body ++ ['}'])) :
    ofText (before ++ openBraces ++ (body ++ closeBraces ++ rest)) =
      .action before (.ofBody body) (ofText rest) := by
  have hfirst : splitAtFirst? closeBraces (body ++ closeBraces ++ rest) = some (body, rest) :=
    splitAtFirst?_pair_eq_some_iff.2 ⟨rfl, hbody⟩
  rw [ofText]
  split
  · next hsplit =>
    rw [splitAtFirst?_openBraces hbefore] at hsplit
    cases hsplit
  · next before' opened' hsplit =>
    rw [splitAtFirst?_openBraces hbefore] at hsplit
    obtain ⟨rfl, rfl⟩ := Prod.mk.inj (Option.some.inj hsplit)
    split
    · next hclose =>
      rw [hfirst] at hclose
      cases hclose
    · next body' rest' hclose =>
      obtain ⟨rfl, rfl⟩ := Prod.mk.inj (Option.some.inj (hfirst.symm.trans hclose))
      rfl

/-- What a text is cut into is what is found in it. -/
theorem CutsTo.ofText_eq (h : CutsTo text t) : ofText text = t := by
  induction h with
  | tail htext => exact ofText_of_noPair htext
  | action hbefore hbody hrest ih => rw [ofText_action hbefore hbody, ih]

end Cutting

/-- What is left of the text in front of an action. -/
def trimmedFront (trims : Bool) (a : Action) (before : List Char) : List Char :=
  let before := if trims then trimStartChars before else before
  if a.trimsBefore then trimEndChars before else before

section Rendering

variable {functions : FunctionTable} {data : Json} {trims : Bool}

theorem renderFrom_action_eq_ok_iff {before chars : List Char} {a : Action} {rest : TextTemplate} :
    renderFrom functions data trims (.action before a rest) = .ok chars ↔
      ∃ value behind, runAction functions data a.text = .ok value ∧
        renderFrom functions data a.trimsAfter rest = .ok behind ∧
        chars = trimmedFront trims a before ++ value.display.toList ++ behind := by
  rw [renderFrom]
  cases hvalue : runAction functions data a.text with
  | error e =>
    refine iff_of_false (fun h => nomatch h) ?_
    rintro ⟨_, _, h, -⟩
    cases h
  | ok value =>
    cases hrest : renderFrom functions data a.trimsAfter rest with
    | error e =>
      refine iff_of_false (fun h => nomatch h) ?_
      rintro ⟨_, _, -, h, -⟩
      cases h
    | ok behind =>
      constructor
      · intro h
        exact ⟨value, behind, rfl, rfl, (Except.ok.inj h).symm⟩
      · rintro ⟨_, _, ⟨⟩, ⟨⟩, rfl⟩
        rfl

/-- A text that renders is cut at its actions, since all of them are closed. -/
theorem cutsTo_ofText {text chars : List Char}
    (h : renderFrom functions data trims (ofText text) = .ok chars) :
    CutsTo text (ofText text) := by
  induction text using ofText.induct generalizing trims chars with
  | case1 text hsplit =>
    rw [openBraces, splitAtFirst?_pair_eq_none_iff] at hsplit
    rw [ofText_of_noPair hsplit]
    exact .tail hsplit
  | case2 text before opened hsplit hclose =>
    obtain ⟨rfl, hbefore⟩ := splitAtFirst?_pair_eq_some_iff.1 hsplit
    rw [← openBraces, ofText_unclosed hbefore (splitAtFirst?_pair_eq_none_iff.1 hclose)] at h
    cases h
  | case3 text before opened hsplit body rest hclose _ ih =>
    obtain ⟨rfl, hbefore⟩ := splitAtFirst?_pair_eq_some_iff.1 hsplit
    obtain ⟨rfl, hbody⟩ := splitAtFirst?_pair_eq_some_iff.1 hclose
    rw [← openBraces, ← closeBraces, ofText_action hbefore hbody] at h ⊢
    obtain ⟨value, behind, -, hbehind, -⟩ := renderFrom_action_eq_ok_iff.1 h
    exact .action hbefore hbody (ih hbehind)

end Rendering

/-! ## Templates behind each other -/

/-- A template with more text in front of it. -/
def prepend (front : List Char) : TextTemplate → TextTemplate
  | tail text => tail (front ++ text)
  | action before a rest => action (front ++ before) a rest
  | unclosed before => unclosed (front ++ before)

/-- Two templates behind each other.  What stands behind an action that is not closed is lost. -/
def append : TextTemplate → TextTemplate → TextTemplate
  | tail text, u => u.prepend text
  | action before a rest, u => action before a (rest.append u)
  | unclosed before, _ => unclosed before

section Append

variable {front back text chars chars' : List Char} {t u : TextTemplate}

theorem CutsTo.prepend (h : CutsTo text u) (hfront : NoPair '{' front)
    (hseam : ¬(front.getLast? = some '{' ∧ text.head? = some '{')) :
    CutsTo (front ++ text) (u.prepend front) := by
  cases h with
  | tail htext => exact .tail (noPair_append.2 ⟨hfront, htext, hseam⟩)
  | @action before body rest t hbefore hbody hrest =>
    have hhead : (before ++ openBraces ++ (body ++ closeBraces ++ rest)).head? =
        (before ++ ['{']).head? := by
      rw [List.append_assoc]
      exact head?_append_cons before '{' _
    rw [hhead] at hseam
    have hbefore' : NoPair '{' (front ++ before ++ ['{']) := by
      rw [List.append_assoc]
      exact noPair_append.2 ⟨hfront, hbefore, hseam⟩
    have hcut := CutsTo.action hbefore' hbody hrest
    rwa [List.append_assoc front, List.append_assoc front] at hcut

/-- Two texts behind each other are cut where each of them is, unless there is a pair of opening braces
at the seam. -/
theorem CutsTo.append (hfront : CutsTo front t) (hback : CutsTo back u)
    (hseam : ¬(front.getLast? = some '{' ∧ back.head? = some '{')) :
    CutsTo (front ++ back) (t.append u) := by
  induction hfront with
  | tail htext => exact hback.prepend htext hseam
  | @action before body rest t hbefore hbody hrest ih =>
    have hrestSeam : ¬(rest.getLast? = some '{' ∧ back.head? = some '{') := by
      rintro ⟨hlast, hhead⟩
      refine hseam ⟨?_, hhead⟩
      rw [List.getLast?_append, List.getLast?_append, hlast]
      rfl
    have hcut := CutsTo.action hbefore hbody (ih hrestSeam)
    rwa [← List.append_assoc (body ++ closeBraces), ← List.append_assoc (before ++ openBraces)] at hcut

variable {functions : FunctionTable} {data : Json} {trims : Bool}

/-- Text in front of a template stays as it is if the first action does not trim it. -/
theorem renderFrom_prepend (hfirst : ∀ a ∈ u.actions.head?, a.trimsBefore = false)
    (h : renderFrom functions data false u = .ok chars) :
    renderFrom functions data false (u.prepend front) = .ok (front ++ chars) := by
  cases u with
  | tail text => rw [← Except.ok.inj h]; rfl
  | unclosed before => cases h
  | action before a rest =>
    obtain ⟨value, behind, hvalue, hbehind, rfl⟩ := renderFrom_action_eq_ok_iff.1 h
    refine renderFrom_action_eq_ok_iff.2 ⟨value, behind, hvalue, hbehind, ?_⟩
    simp [trimmedFront, hfirst a rfl]

/-- Two templates behind each other render to what each of them does, unless an action trims the text
on the other side of the seam. -/
theorem renderFrom_append (hlast : (t.actions.getLast?.map (·.trimsAfter)).getD trims = false)
    (hfirst : ∀ a ∈ u.actions.head?, a.trimsBefore = false)
    (ht : renderFrom functions data trims t = .ok chars)
    (hu : renderFrom functions data false u = .ok chars') :
    renderFrom functions data trims (t.append u) = .ok (chars ++ chars') := by
  induction t generalizing trims chars with
  | tail text =>
    obtain rfl : trims = false := hlast
    rw [← Except.ok.inj ht]
    exact renderFrom_prepend hfirst hu
  | unclosed before => cases ht
  | action before a rest ih =>
    obtain ⟨value, behind, hvalue, hbehind, rfl⟩ := renderFrom_action_eq_ok_iff.1 ht
    have hrest : (rest.actions.getLast?.map (·.trimsAfter)).getD a.trimsAfter = false := by
      rw [actions, List.getLast?_cons] at hlast
      cases hactions : rest.actions.getLast? with
      | none => rwa [hactions] at hlast
      | some last => rwa [hactions] at hlast
    refine renderFrom_action_eq_ok_iff.2 ⟨value, behind ++ chars', hvalue, ih hrest hbehind, ?_⟩
    rw [List.append_assoc _ behind]

end Append

end TextTemplate

/-! ## Main result -/

section Texts

variable {functions : FunctionTable} {data : Json} {text result : String}

theorem renderText_eq_ok_iff :
    renderText functions data text = .ok result ↔
      (TextTemplate.ofText text.toList).renderFrom functions data false = .ok result.toList := by
  rw [renderText, TextTemplate.render]
  cases (TextTemplate.ofText text.toList).renderFrom functions data false with
  | error fault => exact iff_of_false (fun h => nomatch h) (fun h => nomatch h)
  | ok chars =>
    rw [Except.ok.injEq, Except.ok.injEq]
    constructor
    · rintro rfl
      exact String.toList_ofList.symm
    · rintro rfl
      exact String.ofList_toList

/-- Rendering distributes over concatenation.  Two texts that render, one behind the other, render to
the one result and the other behind it if no action of theirs trims text on the other side of the seam,
and no pair of opening braces comes up there. -/
theorem renderText_append {first second firstResult secondResult : String}
    (hfirst : renderText functions data first = .ok firstResult)
    (hsecond : renderText functions data second = .ok secondResult)
    (hlast : ∀ a ∈ (TextTemplate.ofText first.toList).actions.getLast?, a.trimsAfter = false)
    (hnext : ∀ a ∈ (TextTemplate.ofText second.toList).actions.head?, a.trimsBefore = false)
    (hseam : ¬(first.toList.getLast? = some '{' ∧ second.toList.head? = some '{')) :
    renderText functions data (first ++ second) = .ok (firstResult ++ secondResult) := by
  rw [renderText_eq_ok_iff] at hfirst hsecond ⊢
  have hcut := (TextTemplate.cutsTo_ofText hfirst).append (TextTemplate.cutsTo_ofText hsecond) hseam
  have htrims : ((TextTemplate.ofText first.toList).actions.getLast?.map (·.trimsAfter)).getD false =
      false := by
    cases hactions : (TextTemplate.ofText first.toList).actions.getLast? with
    | none => rfl
    | some a => exact hlast a hactions
  rw [String.toList_append, String.toList_append, hcut.ofText_eq]
  exact TextTemplate.renderFrom_append htrims hnext hfirst hsecond

end Texts

/-- Data with a name and a town. -/
def greetingData : Json := .object [("name", .string "Ann"), ("town", .string "Ulm")]

/-- Braces at the seam are fine as long as they do not open an action, and so are actions that trim the
text on their own side. -/
theorem renderText_append_greeting :
    renderText .standard greetingData
        ("Dear  \x7b\x7b- .name \x7d\x7d \x7b" ++ "\x7d\x7b\x7b .town -\x7d\x7d \x7b") =
      .ok ("DearAnn \x7b" ++ "\x7dUlm\x7b") :=
  renderText_append (by cbv) (by cbv) (by decide +kernel) (by decide +kernel) (by decide)

end SheetPress
