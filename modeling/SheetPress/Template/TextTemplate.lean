import SheetPress.Template.Action

/-!
# Text templates

A text with actions between double braces, as in `Report for {{ .company }}`. `TextTemplate.ofText`
finds the actions, `TextTemplate.render` puts their values in their places. A dash at an end of an
action, set off by white space, trims the text on that side of it.
-/

namespace SheetPress

/-- An action with the sides on which it trims the text around it. -/
structure Action where
  text : List Char
  trimsBefore : Bool
  trimsAfter : Bool
  deriving DecidableEq, Repr

/-- A text cut at its actions. -/
inductive TextTemplate where
  /-- The text behind the last action. -/
  | tail (text : List Char)
  /-- The text in front of an action, the action, and the rest. -/
  | action (before : List Char) (action : Action) (rest : TextTemplate)
  /-- An action that is never closed. -/
  | unclosed (before : List Char)
  deriving DecidableEq, Repr

/-- The braces that open an action. -/
def openBraces : List Char := ['{', '{']

/-- The braces that close an action. -/
def closeBraces : List Char := ['}', '}']

/-- The action that the text between braces stands for. -/
def Action.ofBody (body : List Char) : Action :=
  let (trimsBefore, body) := match body with
    | '-' :: c :: rest => if isBlank c then (true, c :: rest) else (false, body)
    | body => (false, body)
  match body.reverse with
  | '-' :: c :: rest =>
    if isBlank c then ⟨(c :: rest).reverse, trimsBefore, true⟩ else ⟨body, trimsBefore, false⟩
  | _ => ⟨body, trimsBefore, false⟩

theorem dropLead?_eq_append {lead text behind : List Char}
    (h : dropLead? lead text = some behind) : text = lead ++ behind := by
  fun_induction dropLead? lead text with
  | case1 => simp_all
  | case2 => cases h
  | case3 lead c text ih => simp [ih h]
  | case4 => cases h

theorem splitAtFirst?_eq_append {mark text front behind : List Char}
    (h : splitAtFirst? mark text = some (front, behind)) : text = front ++ mark ++ behind := by
  fun_induction splitAtFirst? mark text generalizing front with
  | case1 hm => simp_all
  | case2 => cases h
  | case3 c rest behind' hd =>
    simp only [Option.some.injEq, Prod.mk.injEq] at h
    obtain ⟨rfl, rfl⟩ := h
    simpa using dropLead?_eq_append hd
  | case4 c rest hd ih =>
    simp only [Option.map_eq_some_iff, Prod.mk.injEq, Prod.exists] at h
    obtain ⟨front', behind', h, rfl, rfl⟩ := h
    have happ := ih h
    simp [happ]

namespace TextTemplate

/-- Finds the actions of a text. -/
def ofText (text : List Char) : TextTemplate :=
  match h : splitAtFirst? openBraces text with
  | none => .tail text
  | some (before, opened) =>
    match h' : splitAtFirst? closeBraces opened with
    | none => .unclosed before
    | some (body, rest) =>
      have : rest.length < text.length := by
        rw [splitAtFirst?_eq_append h, splitAtFirst?_eq_append h']
        simp [openBraces, closeBraces]
        omega
      .action before (.ofBody body) (ofText rest)
termination_by text.length

/-- The text of a template with the values of its actions; `trims` tells whether the action in front
trims what follows it. -/
def renderFrom (functions : FunctionTable) (data : Json) (trims : Bool) :
    TextTemplate → Except ActionFault (List Char)
  | tail text => .ok (if trims then trimStartChars text else text)
  | unclosed _ => .error .unclosed
  | action before a rest => do
    let before := if trims then trimStartChars before else before
    let before := if a.trimsBefore then trimEndChars before else before
    let value ← runAction functions data a.text
    let behind ← renderFrom functions data a.trimsAfter rest
    .ok (before ++ value.display.toList ++ behind)

/-- The text of a template with the values of its actions. -/
def render (functions : FunctionTable) (data : Json) (t : TextTemplate) :
    Except ActionFault (List Char) :=
  t.renderFrom functions data false

end TextTemplate

/-- Puts the values of its actions into a text. -/
def renderText (functions : FunctionTable) (data : Json) (text : String) :
    Except TemplateError String :=
  match (TextTemplate.ofText text.toList).render functions data with
  | .ok chars => .ok (String.ofList chars)
  | .error fault => .error (.action text fault)

/-- Whether a text begins with an action that holds something and no braces. -/
def startsWithAction (text : List Char) : Bool :=
  match dropLead? openBraces text with
  | none => false
  | some opened =>
    let body := opened.takeWhile fun c => c ≠ '{' && c ≠ '}'
    body ≠ [] && (dropLead? closeBraces (opened.drop body.length)).isSome

/-- Whether a text holds an action anywhere: a quick look that finds texts to render. -/
def holdsAction : List Char → Bool
  | [] => false
  | c :: rest => startsWithAction (c :: rest) || holdsAction rest

end SheetPress
