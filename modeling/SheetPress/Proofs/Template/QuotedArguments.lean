import SheetPress.Proofs.Text.Ascii
import SheetPress.Proofs.Template.TextTemplates

/-!
# Quoted arguments

Any text can be handed to a function between quotes.  A backslash goes in front of each backslash and of
each quote, which would end the literal, and in front of each closing brace, two of which would end the
action: the end of an action is searched for without regard to quotes.

* `quotedLiteral?_escapeQuoted` — what is written between quotes is read back.
* `noPair_escapeQuoted` — no pair of closing braces comes up in it.
* `renderText_quoted` — an action with a quoted text has that text as its value, and one that calls a
  function hands it over.
-/

namespace SheetPress

/-- A text with a backslash in front of each backslash, quote and closing brace. -/
def escapeQuoted (text : List Char) : List Char :=
  text.flatMap fun c => if c = '\\' ∨ c = '"' ∨ c = '}' then ['\\', c] else [c]

/-- The literal that a text is written as. -/
def quotedLiteral (text : List Char) : List Char := '"' :: (escapeQuoted text ++ ['"'])

/-! ## Reading back -/

section Escape

variable {text behind : List Char}

theorem escapeQuoted_cons_of_mem {c : Char} (h : c = '\\' ∨ c = '"' ∨ c = '}') :
    escapeQuoted (c :: text) = '\\' :: c :: escapeQuoted text := by
  rw [escapeQuoted, List.flatMap_cons, if_pos h]
  rfl

theorem escapeQuoted_cons_of_notMem {c : Char} (h : ¬(c = '\\' ∨ c = '"' ∨ c = '}')) :
    escapeQuoted (c :: text) = c :: escapeQuoted text := by
  rw [escapeQuoted, List.flatMap_cons, if_neg h]
  rfl

theorem quotedLiteral?_cons {c : Char} (hquote : c ≠ '"') (hslash : c ≠ '\\') (text : List Char) :
    quotedLiteral? (c :: text) =
      (quotedLiteral? text).map fun (read, behind) => (c :: read, behind) := by
  rw [quotedLiteral?]
  · exact hquote
  · exact fun _ _ heq => absurd heq hslash
  · exact fun heq => absurd heq hslash

/-- What is written between quotes is read back, whatever stands behind. -/
theorem quotedLiteral?_escapeQuoted (text behind : List Char) :
    quotedLiteral? (escapeQuoted text ++ '"' :: behind) = some (text, behind) := by
  induction text with
  | nil => rfl
  | cons c text ih =>
    by_cases hc : c = '\\' ∨ c = '"' ∨ c = '}'
    · have hsame : unescape c = c := by rcases hc with rfl | rfl | rfl <;> rfl
      rw [escapeQuoted_cons_of_mem hc, List.cons_append, List.cons_append, quotedLiteral?, ih,
        Option.map_some, hsame]
    · have hplain : c ≠ '"' ∧ c ≠ '\\' :=
        ⟨fun heq => hc (.inr (.inl heq)), fun heq => hc (.inl heq)⟩
      rw [escapeQuoted_cons_of_notMem hc, List.cons_append, quotedLiteral?_cons hplain.1 hplain.2, ih,
        Option.map_some]

/-- No pair of closing braces comes up: each of them stands behind a backslash. -/
theorem noPair_escapeQuoted (h : NoPair '}' behind) (hhead : behind.head? ≠ some '}') :
    NoPair '}' (escapeQuoted text ++ behind) := by
  -- the induction needs that the text does not begin with a brace either
  suffices NoPair '}' (escapeQuoted text ++ behind) ∧
      (escapeQuoted text ++ behind).head? ≠ some '}' from this.1
  induction text with
  | nil => exact ⟨h, hhead⟩
  | cons c text ih =>
    by_cases hc : c = '\\' ∨ c = '"' ∨ c = '}'
    · rw [escapeQuoted_cons_of_mem hc, List.cons_append, List.cons_append]
      exact ⟨noPair_cons.2 ⟨by simp, noPair_cons.2 ⟨fun hpair => ih.2 hpair.2, ih.1⟩⟩, by simp⟩
    · have hbrace : c ≠ '}' := fun heq => hc (.inr (.inr heq))
      rw [escapeQuoted_cons_of_notMem hc, List.cons_append]
      exact ⟨noPair_cons.2 ⟨fun hpair => hbrace hpair.1, ih.1⟩, by simpa using hbrace⟩

theorem noPair_quotedLiteral (text : List Char) : NoPair '}' (quotedLiteral text) :=
  noPair_cons.2 ⟨by simp, noPair_escapeQuoted (noPair_singleton ..) (by simp)⟩

end Escape

/-! ## Words of actions -/

/-- Characters of the names of functions. -/
def isCallChar (c : Char) : Bool := isAlphanumeric c || c = '_'

/-- Names that call a function: words of letters, digits and underscores that are neither numbers nor
literals. -/
structure IsCallName (name : List Char) : Prop where
  ne_nil : name ≠ []
  chars : ∀ c ∈ name, isCallChar c = true
  head : ∀ c ∈ name.head?, isAsciiDigit c = false
  ne_true : name ≠ ['t', 'r', 'u', 'e']
  ne_false : name ≠ ['f', 'a', 'l', 's', 'e']
  ne_nilWord : name ≠ ['n', 'i', 'l']

theorem of_isCallChar {c : Char} (h : isCallChar c = true) :
    isBlank c = false ∧ c ∉ ['|', '"', backquote, '(', ')', '$', '.', '-', '+'] := by
  have hne : ∀ {d : Char}, isCallChar d = false → c ≠ d := by
    rintro d hd rfl
    rw [h] at hd
    cases hd
  refine ⟨?_, fun hmem => ?_⟩
  · by_contra hblank
    rw [Bool.not_eq_false] at hblank
    have hnone : isCallChar c = false := of_isBlank_of_forall hblank (by decide +kernel)
    rw [h] at hnone
    cases hnone
  · fin_cases hmem <;> exact absurd h (by decide +kernel)

section Words

variable {c : Char} {text behind name : List Char} {word : ActionWord}

theorem IsCallName.wordOf_eq (h : IsCallName name) :
    wordOf name = .ok (.function (String.ofList name)) := by
  obtain ⟨c, more, rfl⟩ := List.exists_cons_of_ne_nil h.ne_nil
  have hc := (of_isCallChar (h.chars c (List.mem_cons_self ..))).2
  have hfirst : (isAsciiDigit c || c = '-' || c = '+') = false := by
    simp only [List.mem_cons, not_or] at hc
    simp [h.head c rfl, hc]
  have hall : (c :: more).all (fun c => isAlphanumeric c || c = '_') = true :=
    List.all_eq_true.2 h.chars
  unfold wordOf
  split
  · next heq => exact absurd (by simp [(List.cons.inj heq).1]) hc
  · next heq => exact absurd (by simp [(List.cons.inj heq).1]) hc
  · next heq => exact absurd heq h.ne_true
  · next heq => exact absurd heq h.ne_false
  · next heq => exact absurd heq h.ne_nilWord
  · rw [List.head?_cons, Option.any_some, if_neg (by rw [hfirst]; decide), if_pos hall]

theorem nextWord_quoted (text behind : List Char) :
    nextWord '"' (escapeQuoted text ++ '"' :: behind) =
      .ok (.literal (.string (String.ofList text)), behind) := by
  rw [nextWord, if_neg (by decide), if_pos rfl, quotedLiteral?_escapeQuoted]

theorem IsCallName.nextWord_eq (h : IsCallName (c :: text)) :
    nextWord c (text ++ ' ' :: behind) =
      .ok (.function (String.ofList (c :: text)), ' ' :: behind) := by
  have hc := (of_isCallChar (h.chars c (List.mem_cons_self ..))).2
  simp only [List.mem_cons, not_or] at hc
  have hword : ∀ d ∈ text, (!endsWord d) = true := by
    intro d hd
    obtain ⟨hblank, hd⟩ := of_isCallChar (h.chars d (List.mem_cons_of_mem _ hd))
    simp only [List.mem_cons, not_or] at hd
    simp [endsWord, hblank, hd]
  have hspace : endsWord ' ' = true := by decide +kernel
  rw [nextWord, if_neg hc.1, if_neg hc.2.1, if_neg hc.2.2.1, if_neg (by simp [hc]),
    List.takeWhile_append_of_pos hword, List.takeWhile_cons_of_neg (by simp [hspace]), List.append_nil,
    List.dropWhile_append_of_pos hword, List.dropWhile_cons_of_neg (by simp [hspace]), h.wordOf_eq]
  rfl

theorem actionWords_of_blank (h : text.dropWhile isBlank = []) : actionWords text = .ok [] := by
  have hnone : firstWord? text = .ok none := by rw [firstWord?, h]
  rw [actionWords]
  split
  · next herror => rw [hnone] at herror; cases herror
  · rfl
  · next hsome => rw [hnone] at hsome; cases hsome

theorem actionWords_space_cons (hc : isBlank c = false) (h : nextWord c text = .ok (word, behind)) :
    actionWords (' ' :: c :: text) = (actionWords behind).map (word :: ·) := by
  have hfirst : firstWord? (' ' :: c :: text) = .ok (some (word, behind)) := by
    rw [firstWord?, List.dropWhile_cons_of_pos (by decide +kernel),
      List.dropWhile_cons_of_neg (by simp [hc])]
    exact congrArg (Except.map some) h
  rw [actionWords]
  split
  · next herror => rw [hfirst] at herror; cases herror
  · next hnone => rw [hfirst] at hnone; cases hnone
  · next hsome =>
    rw [hfirst] at hsome
    obtain ⟨rfl, rfl⟩ := Prod.mk.inj (Option.some.inj (Except.ok.inj hsome))
    rfl

theorem actionWords_quoted (text : List Char) :
    actionWords (' ' :: (quotedLiteral text ++ [' '])) =
      .ok [.literal (.string (String.ofList text))] := by
  rw [quotedLiteral, List.cons_append, List.append_assoc, List.singleton_append,
    actionWords_space_cons (by decide +kernel) (nextWord_quoted text [' ']),
    actionWords_of_blank (by decide +kernel)]
  rfl

theorem IsCallName.actionWords_eq (h : IsCallName name) (text : List Char) :
    actionWords (' ' :: (name ++ ' ' :: quotedLiteral text ++ [' '])) =
      .ok [.function (String.ofList name), .literal (.string (String.ofList text))] := by
  obtain ⟨c, more, rfl⟩ := List.exists_cons_of_ne_nil h.ne_nil
  have hc := (of_isCallChar (h.chars c (List.mem_cons_self ..))).1
  rw [List.append_assoc, List.cons_append, List.cons_append,
    actionWords_space_cons hc h.nextWord_eq, actionWords_quoted]
  rfl

end Words

/-! ## Actions by themselves -/

/-- An action trims nothing if there are spaces at its ends. -/
theorem Action.ofBody_spaced (text : List Char) :
    Action.ofBody (' ' :: (text ++ [' '])) = ⟨' ' :: (text ++ [' ']), false, false⟩ := by
  obtain ⟨opened, ⟨rfl, hbefore⟩ | ⟨c, rest, -, hdash, -⟩, hback⟩ :=
    Action.ofBody_cases (' ' :: (text ++ [' ']))
  · rcases hback with ⟨htext, hafter⟩ | ⟨rest, c, -, hdash, -⟩
    · have heta : ∀ a : Action, a = ⟨a.text, a.trimsBefore, a.trimsAfter⟩ := fun _ => rfl
      rw [heta (Action.ofBody _), htext, hbefore, hafter]
    · rw [← List.cons_append, List.append_cons rest] at hdash
      exact absurd (List.append_inj' hdash rfl).2 (by decide)
  · cases hdash

section Rendering

variable {functions : FunctionTable} {data : Json}

/-- A text that is one action renders to the value of that action. -/
theorem renderText_spaced {text : String} {body : List Char}
    (htext : text.toList = openBraces ++ (' ' :: (body ++ [' ']) ++ closeBraces))
    (hbody : NoPair '}' body) :
    renderText functions data text =
      match runAction functions data (' ' :: (body ++ [' '])) with
      | .ok value => .ok value.display
      | .error fault => .error (.action text fault) := by
  have hclosed : NoPair '}' (' ' :: (body ++ [' ']) ++ ['}']) := by
    rw [List.cons_append, List.append_assoc]
    refine noPair_cons.2 ⟨by simp, noPair_append.2 ⟨hbody, ?_, by simp⟩⟩
    exact noPair_cons.2 ⟨by simp, noPair_singleton ..⟩
  have hcut : TextTemplate.ofText text.toList = .action [] ⟨' ' :: (body ++ [' ']), false, false⟩
      (.tail []) := by
    have hnil : NoPair '{' ([] ++ ['{']) := noPair_singleton ..
    rw [htext, ← TextTemplate.ofText_of_noPair (noPair_nil '{'), ← Action.ofBody_spaced,
      ← TextTemplate.ofText_action hnil hclosed, List.append_nil, List.nil_append]
  rw [renderText, hcut, TextTemplate.render, TextTemplate.renderFrom]
  cases runAction functions data (' ' :: (body ++ [' '])) with
  | error fault => rfl
  | ok value =>
    refine congrArg Except.ok ?_
    change String.ofList ([] ++ value.display.toList ++ []) = value.display
    rw [List.append_nil, List.nil_append, String.ofList_toList]

theorem runAction_quoted (text : List Char) :
    runAction functions data (' ' :: (quotedLiteral text ++ [' '])) =
      .ok (.string (String.ofList text)) := by
  rw [runAction, actionWords_quoted]
  rfl

/-- A command that calls a function with one literal. -/
theorem runCommand_call {name : String} {f : ActionFunction} (hf : functions.find? name = some f)
    (value : Json) :
    runCommand functions data none [.function name, .literal value] =
      match f [value] with
      | .ok result => .ok result
      | .error message => .error (.callFailed name message) := by
  rw [runCommand, hf]
  rfl

theorem IsCallName.runAction_eq {name : List Char} (h : IsCallName name) {f : ActionFunction}
    (hf : functions.find? (String.ofList name) = some f) (text : List Char) :
    runAction functions data (' ' :: (name ++ ' ' :: quotedLiteral text ++ [' '])) =
      match f [.string (String.ofList text)] with
      | .ok value => .ok value
      | .error message => .error (.callFailed (String.ofList name) message) := by
  rw [runAction, h.actionWords_eq]
  change (runCommand functions data none [.function _, .literal _]) >>= pure = _
  rw [bind_pure, runCommand_call hf]

end Rendering

/-! ## Main result -/

/-- A template of one action that holds a quoted text. -/
def quotedText (s : String) : String :=
  "\x7b\x7b " ++ String.ofList (quotedLiteral s.toList) ++ " \x7d\x7d"

/-- A template of one action that calls a function with a quoted text. -/
def quotedCall (name s : String) : String :=
  "\x7b\x7b " ++ name ++ " " ++ String.ofList (quotedLiteral s.toList) ++ " \x7d\x7d"

/-- Every text can be quoted.  An action that holds the quoted text renders to it, and an action that
calls a function of the table with the quoted text gives the function that text and nothing else. -/
theorem renderText_quoted (functions : FunctionTable) (data : Json) (s : String) :
    renderText functions data (quotedText s) = .ok s ∧
      ∀ (name : String) (f : ActionFunction), IsCallName name.toList →
        functions.find? name = some f →
          renderText functions data (quotedCall name s) =
            match f [.string s] with
            | .ok value => .ok value.display
            | .error message => .error (.action (quotedCall name s) (.callFailed name message)) := by
  constructor
  · have htext : (quotedText s).toList =
        openBraces ++ (' ' :: (quotedLiteral s.toList ++ [' ']) ++ closeBraces) := by
      simp [quotedText, openBraces, closeBraces]
    rw [renderText_spaced htext (noPair_quotedLiteral _), runAction_quoted, String.ofList_toList]
    rfl
  · intro name f hname hf
    have htext : (quotedCall name s).toList =
        openBraces ++ (' ' :: (name.toList ++ ' ' :: quotedLiteral s.toList ++ [' ']) ++
          closeBraces) := by
      simp [quotedCall, openBraces, closeBraces]
    have hbody : NoPair '}' (name.toList ++ ' ' :: quotedLiteral s.toList) := by
      have hbrace : '}' ∉ name.toList := fun hmem =>
        absurd (hname.chars _ hmem) (by decide +kernel)
      exact noPair_append.2 ⟨noPair_of_notMem hbrace,
        noPair_cons.2 ⟨by simp, noPair_quotedLiteral _⟩, by simp⟩
    rw [renderText_spaced htext hbody, hname.runAction_eq (by rwa [String.ofList_toList]),
      String.ofList_toList, String.ofList_toList]
    cases f [.string s] <;> rfl

/-- Quotes, backslashes and pairs of closing braces reach the function. -/
theorem renderText_quoted_upper :
    renderText .standard (.object []) (quotedCall "upper" "-\"a\" \x7d\x7d\\n") =
      .ok "-\"A\" \x7d\x7d\\N" := by
  have hname : IsCallName "upper".toList := {
    ne_nil := by decide
    chars := forall_mem_of_all (by decide +kernel)
    head := by
      rintro c ⟨⟩
      decide
    ne_true := by decide
    ne_false := by decide
    ne_nilWord := by decide }
  refine ((renderText_quoted .standard (.object []) _).2 "upper" (textFunction "upper" toUpperText)
    hname rfl).trans ?_
  have hupper : toUpperText "-\"a\" \x7d\x7d\\n" = "-\"A\" \x7d\x7d\\N" := by cbv
  exact congrArg Except.ok hupper

end SheetPress
