import SheetPress.Proofs.Template.TextTemplates

/-!
# Texts that look like templates

Before a text is rendered, a quick look decides whether it holds an action at all.  It searches for a
pair of opening braces, other characters and a pair of closing braces, and knows nothing of quotes, so
that an action with a brace in it may escape it.

* `TextTemplate.CutsTo.holdsAction_iff` — the quick look finds what it finds in one of the actions.
* `holdsAction_of_renderText` — a text that renders is seen, or comes out as it is, or has a brace
  inside each of its actions.
* `quotedBrace_goes_unseen` — the last of these does happen.
-/

namespace SheetPress

/-! ## Plain actions -/

/-- Characters that are no braces, and at least one of them. -/
def IsPlainBody (body : List Char) : Prop := body ≠ [] ∧ ∀ c ∈ body, c ≠ '{' ∧ c ≠ '}'

/-- Behind its last pair of opening braces a text has other characters, and no brace among them. -/
def EndsPlainly (text : List Char) : Prop :=
  ∃ front body, text = front ++ openBraces ++ body ∧ IsPlainBody body

/-- Whether the quick look finds an action. -/
def Action.IsSeen (a : Action) : Prop := EndsPlainly (openBraces ++ a.text)

section Plain

variable {c : Char} {text body : List Char}

theorem IsPlainBody.noPair (h : IsPlainBody body) : NoPair '}' (body ++ ['}']) := by
  have hnone : '}' ∉ body := fun hmem => (h.2 _ hmem).2 rfl
  refine noPair_append.2 ⟨noPair_of_notMem hnone, noPair_singleton .., fun hseam => ?_⟩
  exact hnone (List.mem_of_getLast? hseam.1)

theorem not_endsPlainly_nil : ¬EndsPlainly [] := by
  rintro ⟨front, body, htext, -⟩
  exact absurd htext (by simp [openBraces])

theorem endsPlainly_cons :
    EndsPlainly (c :: text) ↔
      (∃ body, c :: text = openBraces ++ body ∧ IsPlainBody body) ∨ EndsPlainly text := by
  constructor
  · rintro ⟨front, body, htext, hbody⟩
    cases front with
    | nil => exact .inl ⟨body, htext, hbody⟩
    | cons a front => exact .inr ⟨front, body, (List.cons.inj htext).2, hbody⟩
  · rintro (⟨body, htext, hbody⟩ | ⟨front, body, rfl, hbody⟩)
    · exact ⟨[], body, htext, hbody⟩
    · exact ⟨c :: front, body, rfl, hbody⟩

end Plain

/-! ## The quick look, from place to place -/

section QuickLook

variable {text before opened behind : List Char}

theorem startsWithAction_iff :
    startsWithAction text = true ↔
      ∃ body behind, text = openBraces ++ (body ++ closeBraces ++ behind) ∧ IsPlainBody body := by
  unfold startsWithAction
  cases hlead : dropLead? openBraces text with
  | none =>
    refine iff_of_false (fun h => nomatch h) ?_
    rintro ⟨body, behind, htext, -⟩
    rw [openBraces, dropLead?_pair_eq_some_iff.2 htext] at hlead
    cases hlead
  | some opened =>
    obtain rfl : text = openBraces ++ opened := dropLead?_pair_eq_some_iff.1 hlead
    dsimp only
    rw [Bool.and_eq_true, decide_eq_true_iff, Option.isSome_iff_exists]
    constructor
    · rintro ⟨hne, behind, hclose⟩
      rw [closeBraces, dropLead?_pair_eq_some_iff] at hclose
      refine ⟨_, behind, ?_, hne, fun c hc => ?_⟩
      · have hopened := List.prefix_append_drop
          (List.takeWhile_prefix (fun c => c ≠ '{' && c ≠ '}') (l := opened))
        rw [hclose] at hopened
        rw [List.append_assoc]
        exact congrArg (openBraces ++ ·) hopened
      · simpa using List.mem_takeWhile_imp hc
    · rintro ⟨body, behind, heq, hne, hplain⟩
      obtain rfl := List.append_cancel_left heq
      have htake : (body ++ closeBraces ++ behind).takeWhile (fun c => c ≠ '{' && c ≠ '}') = body := by
        rw [List.append_assoc, List.takeWhile_append_of_pos fun c hc => by simpa using hplain c hc]
        exact List.append_nil body
      rw [htake]
      refine ⟨hne, behind, ?_⟩
      rw [List.append_assoc, List.drop_left, closeBraces]
      exact dropLead?_pair_eq_some_iff.2 rfl

theorem startsWithAction_eq_false (h : text.head? ≠ some '{') : startsWithAction text = false := by
  rw [← Bool.not_eq_true, startsWithAction_iff]
  rintro ⟨body, behind, rfl, -⟩
  exact h rfl

/-- The quick look finds nothing in front of the first pair of opening braces. -/
theorem holdsAction_before (h : NoPair '{' (before ++ ['{'])) :
    holdsAction (before ++ openBraces ++ opened) = holdsAction (openBraces ++ opened) := by
  induction before with
  | nil => rfl
  | cons c before ih =>
    have hstart : startsWithAction (c :: before ++ openBraces ++ opened) = false := by
      rw [← Bool.not_eq_true, startsWithAction_iff]
      rintro ⟨body, behind, heq, -⟩
      have hnil : NoPair '{' ([] ++ ['{']) := noPair_singleton ..
      cases (h.eq_of_append_eq hnil heq).1
    rw [List.cons_append, List.cons_append] at hstart ⊢
    rw [holdsAction, hstart, Bool.false_or, ih (noPair_cons.1 h).2]

theorem holdsAction_of_noPair (h : NoPair '{' text) : holdsAction text = false := by
  induction text with
  | nil => rfl
  | cons c text ih =>
    have hstart : startsWithAction (c :: text) = false := by
      rw [← Bool.not_eq_true, startsWithAction_iff]
      rintro ⟨body, behind, heq, -⟩
      obtain ⟨rfl, rfl⟩ := List.cons.inj heq
      exact (noPair_cons.1 h).1 ⟨rfl, rfl⟩
    rw [holdsAction, hstart, ih (noPair_cons.1 h).2, Bool.false_or]

/-- Up to the first pair of closing braces the quick look finds what ends there. -/
theorem holdsAction_close (h : NoPair '}' (text ++ ['}'])) :
    holdsAction (text ++ closeBraces ++ behind) = true ↔
      EndsPlainly text ∨ holdsAction behind = true := by
  induction text with
  | nil =>
    have hclose : holdsAction ('}' :: '}' :: behind) = holdsAction behind := by
      rw [holdsAction, startsWithAction_eq_false (by simp), Bool.false_or, holdsAction,
        startsWithAction_eq_false (by simp), Bool.false_or]
    rw [or_iff_right not_endsPlainly_nil]
    exact Bool.eq_iff_iff.1 hclose
  | cons c text ih =>
    have hstart : startsWithAction (c :: text ++ closeBraces ++ behind) = true ↔
        ∃ body, c :: text = openBraces ++ body ∧ IsPlainBody body := by
      rw [startsWithAction_iff]
      constructor
      · rintro ⟨body, behind', heq, hbody⟩
        have hnone : NoPair '}' (openBraces ++ body ++ ['}']) :=
          noPair_cons.2 ⟨by simp, noPair_cons.2 ⟨by simp, hbody.noPair⟩⟩
        exact ⟨body, (h.eq_of_append_eq hnone heq).1, hbody⟩
      · rintro ⟨body, heq, hbody⟩
        exact ⟨body, behind, by rw [heq, List.append_assoc openBraces, List.append_assoc openBraces],
          hbody⟩
    rw [List.cons_append, List.cons_append] at hstart ⊢
    rw [holdsAction, Bool.or_eq_true, hstart, ih (noPair_cons.1 h).2, endsPlainly_cons, or_assoc]

end QuickLook

/-! ## Dashes at the ends of actions -/

section Dashes

variable {c : Char} {text body : List Char}

theorem not_brace_of_isBlank (h : isBlank c = true) : c ≠ '{' ∧ c ≠ '}' := by
  constructor <;> rintro rfl <;> exact absurd h (by decide +kernel)

/-- A dash behind the opening braces hides nothing and shows nothing. -/
theorem endsPlainly_front_dash (hc : c ≠ '{') :
    EndsPlainly (openBraces ++ '-' :: c :: text) ↔ EndsPlainly (openBraces ++ c :: text) := by
  have hplain : IsPlainBody ('-' :: c :: text) ↔ IsPlainBody (c :: text) := by
    simp [IsPlainBody]
  have hpair (rest : List Char) : EndsPlainly (openBraces ++ rest) ↔
      IsPlainBody rest ∨ EndsPlainly ('{' :: rest) := by
    rw [openBraces, List.cons_append, endsPlainly_cons]
    simp [openBraces]
  have hsingle {a : Char} (ha : a ≠ '{') (rest : List Char) :
      EndsPlainly ('{' :: a :: rest) ↔ EndsPlainly (a :: rest) := by
    rw [endsPlainly_cons]
    simp [openBraces, ha]
  have hdash : EndsPlainly ('-' :: c :: text) ↔ EndsPlainly (c :: text) := by
    rw [endsPlainly_cons]
    simp [openBraces]
  rw [hpair, hpair, hplain, hsingle (by decide), hsingle hc, hdash]

/-- Nor does a dash in front of the closing braces. -/
theorem endsPlainly_back_dash (hc : c ≠ '{' ∧ c ≠ '}') :
    EndsPlainly (text ++ [c, '-']) ↔ EndsPlainly (text ++ [c]) := by
  constructor
  · rintro ⟨front, body, htext, hne, hplain⟩
    obtain ⟨body, d, rfl⟩ := (List.eq_nil_or_concat body).resolve_left hne
    have hcut : text ++ [c] = front ++ openBraces ++ body := by
      rw [List.concat_eq_append, ← List.append_assoc, List.append_cons text] at htext
      exact (List.append_inj' htext rfl).1
    refine ⟨front, body, hcut, ?_, fun a ha => hplain a (by simp [ha])⟩
    rintro rfl
    rw [List.append_nil, openBraces, List.append_cons front] at hcut
    exact hc.1 (List.singleton_inj.1 (List.append_inj' hcut rfl).2)
  · rintro ⟨front, body, htext, hne, hplain⟩
    refine ⟨front, body ++ ['-'], ?_, by simp, ?_⟩
    · rw [← List.append_assoc, ← htext, List.append_assoc]
      rfl
    · intro a ha
      rcases List.mem_append.1 ha with ha | ha
      · exact hplain a ha
      · rw [List.mem_singleton.1 ha]
        decide

/-- What an action holds is seen whether or not dashes at its ends are taken off. -/
theorem isSeen_ofBody : (Action.ofBody body).IsSeen ↔ EndsPlainly (openBraces ++ body) := by
  obtain ⟨opened, hfront, hback⟩ := Action.ofBody_cases body
  rw [Action.IsSeen]
  have hopened : EndsPlainly (openBraces ++ opened) ↔ EndsPlainly (openBraces ++ body) := by
    rcases hfront with ⟨rfl, -⟩ | ⟨c, rest, hc, rfl, rfl, -⟩
    · rfl
    · exact (endsPlainly_front_dash (not_brace_of_isBlank hc).1).symm
  rcases hback with ⟨htext, -⟩ | ⟨rest, c, hc, rfl, htext, -⟩
  · rw [htext, hopened]
  · rw [htext, ← hopened, ← List.append_assoc, ← List.append_assoc]
    exact (endsPlainly_back_dash (not_brace_of_isBlank hc)).symm

end Dashes

/-! ## Whole texts -/

namespace TextTemplate

section Templates

variable {functions : FunctionTable} {data : Json} {trims : Bool} {text chars : List Char}
  {t : TextTemplate}

/-- The quick look finds an action of a text exactly if one of the actions is seen by itself. -/
theorem CutsTo.holdsAction_iff (h : CutsTo text t) :
    holdsAction text = true ↔ ∃ a ∈ t.actions, a.IsSeen := by
  induction h with
  | tail htext =>
    rw [holdsAction_of_noPair htext]
    exact iff_of_false Bool.false_ne_true (by simp [actions])
  | @action before body rest t hbefore hbody hrest ih =>
    have hopened : NoPair '}' (openBraces ++ body ++ ['}']) :=
      noPair_cons.2 ⟨by simp, noPair_cons.2 ⟨by simp, hbody⟩⟩
    rw [holdsAction_before hbefore, ← List.append_assoc, ← List.append_assoc, holdsAction_close hopened,
      ← isSeen_ofBody, ih]
    simp [actions]

/-- Every action of a template that renders has a value. -/
theorem runAction_of_renderFrom (h : renderFrom functions data trims t = .ok chars) :
    ∀ a ∈ t.actions, ∃ value, runAction functions data a.text = .ok value := by
  induction t generalizing trims chars with
  | tail text => exact fun a ha => nomatch ha
  | unclosed before => cases h
  | action before first rest ih =>
    obtain ⟨value, behind, hvalue, hbehind, -⟩ := renderFrom_action_eq_ok_iff.1 h
    intro a ha
    rcases List.mem_cons.1 ha with rfl | ha
    · exact ⟨value, hvalue⟩
    · exact ih hbehind a ha

/-- A template without actions renders to its text. -/
theorem CutsTo.eq_of_renderFrom (h : CutsTo text t) (hnone : t.actions = [])
    (hrender : renderFrom functions data false t = .ok chars) : chars = text := by
  cases h with
  | tail htext => exact (Except.ok.inj hrender).symm
  | action => exact absurd hnone (List.cons_ne_nil _ _)

end Templates

end TextTemplate

theorem runAction_nil (functions : FunctionTable) (data : Json) :
    runAction functions data [] = .error .empty := by
  rw [runAction, actionWords]
  rfl

section Texts

variable {functions : FunctionTable} {data : Json} {text result : String}

/-- What the quick look says of a text that renders.  It finds the actions that are seen by themselves;
and where it finds none, the text has no actions and comes out as it is, or there is a brace inside each
of them. -/
theorem holdsAction_of_renderText (h : renderText functions data text = .ok result) :
    (holdsAction text.toList = true ↔
      ∃ a ∈ (TextTemplate.ofText text.toList).actions, a.IsSeen) ∧
    (holdsAction text.toList = false →
      result = text ∨ (TextTemplate.ofText text.toList).actions ≠ [] ∧
        ∀ a ∈ (TextTemplate.ofText text.toList).actions, ∃ c ∈ a.text, c = '{' ∨ c = '}') := by
  rw [renderText_eq_ok_iff] at h
  have hcut := TextTemplate.cutsTo_ofText h
  refine ⟨hcut.holdsAction_iff, fun hfalse => ?_⟩
  by_cases hnone : (TextTemplate.ofText text.toList).actions = []
  · exact .inl (String.toList_injective (hcut.eq_of_renderFrom hnone h))
  refine .inr ⟨hnone, fun a ha => ?_⟩
  by_contra hplain
  push Not at hplain
  have hne : a.text ≠ [] := by
    intro hempty
    obtain ⟨value, hvalue⟩ := TextTemplate.runAction_of_renderFrom h a ha
    rw [hempty, runAction_nil] at hvalue
    cases hvalue
  have htrue : holdsAction text.toList = true :=
    hcut.holdsAction_iff.2 ⟨a, ha, [], a.text, rfl, hne, hplain⟩
  rw [hfalse] at htrue
  cases htrue

/-- A text whose only action has a brace between quotes. -/
def bracedText : String := "\x7b\x7b \"\x7b\" \x7d\x7d"

theorem holdsAction_of_renderText_braced :
    renderText .standard greetingData (bracedText ++ "\x7b\x7b- .name \x7d\x7d") =
        .ok ("\x7b" ++ "Ann") ∧
      ∃ a ∈ (TextTemplate.ofText (bracedText ++ "\x7b\x7b- .name \x7d\x7d").toList).actions,
        a.IsSeen := by
  have hrender : renderText .standard greetingData (bracedText ++ "\x7b\x7b- .name \x7d\x7d") =
      .ok ("\x7b" ++ "Ann") := by cbv
  exact ⟨hrender, (holdsAction_of_renderText hrender).1.1 (by decide +kernel)⟩

/-- The quick look passes over a text that renders to something else, since there is a brace between the
quotes of its action. -/
theorem quotedBrace_goes_unseen :
    holdsAction bracedText.toList = false ∧
      renderText .standard (.object []) bracedText = .ok "\x7b" ∧ "\x7b" ≠ bracedText := by
  exact ⟨by decide +kernel, by cbv, by decide⟩

end Texts

end SheetPress
