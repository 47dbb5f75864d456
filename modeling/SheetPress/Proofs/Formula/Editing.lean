import Mathlib
import SheetPress.Proofs.Formula.Pieces

/-!
# What an edit of references leaves alone

`editedFrom` is the text that an edit of references makes of a formula from some place on.  An edit
works on the text alone: it leaves everything as it is that is cut into single characters.
`editedFrom_corner` and `editedFrom_corners` are the places that it reaches.  An edit that can fail
works piece by piece as well (`editReferences_eq_ok_iff`).
-/

namespace SheetPress

/-- The text that an edit makes of a formula from some place on, given the quote that is open there
and the character in front. -/
def editedFrom (f : Reference → Option String) (opened before : Option Char) (text : List Char) :
    List Char :=
  (piecesFrom opened before text).flatMap fun
    | .char c => [c]
    | .reference source ref =>
      match f ref with
      | some text => text.toList
      | none => source.chars

theorem mapReferences_eq_editedFrom (f : Reference → Option String) (formula : String) :
    mapReferences f formula = String.ofList (editedFrom f none none formula.toList) := rfl

variable {f : Reference → Option String} {opened opened' before last : Option Char}

/-! ## Steps -/

@[simp] theorem editedFrom_nil : editedFrom f opened before [] = [] := by
  simp [editedFrom]

/-- Text that is cut into single characters stays. -/
theorem editedFrom_of_pieces {text run tail : List Char}
    (h : piecesFrom opened before text = run.map .char ++ piecesFrom opened' last tail) :
    editedFrom f opened before text = run ++ editedFrom f opened' last tail := by
  unfold editedFrom
  rw [h, List.flatMap_append, List.flatMap_map]
  simp

theorem editedFrom_of_pieces_cons {c : Char} {text tail : List Char}
    (h : piecesFrom opened before text = .char c :: piecesFrom opened' last tail) :
    editedFrom f opened before text = c :: editedFrom f opened' last tail := by
  unfold editedFrom
  rw [h]
  rfl

theorem editedFrom_char {c : Char} {rest : List Char}
    (h : ReferenceText.split? (c :: rest) = none) :
    editedFrom f opened before (c :: rest) =
      c :: editedFrom f (openQuote opened c) (some c) rest :=
  editedFrom_of_pieces_cons (piecesFrom_char h)

theorem editedFrom_split {c : Char} {rest behind : List Char} {source : ReferenceText}
    (h : ReferenceText.split? (c :: rest) = some (source, behind)) :
    editedFrom f opened before (c :: rest) =
      ((source.pieces opened before behind.head?).flatMap fun
        | .char c => [c]
        | .reference source ref =>
          match f ref with
          | some text => text.toList
          | none => source.chars) ++ editedFrom f opened source.chars.getLast? behind := by
  unfold editedFrom
  rw [piecesFrom_split h, List.flatMap_append]

/-- A reference in quotes, or one that does not stand for itself, is left alone. -/
theorem editedFrom_skip {c : Char} {rest behind : List Char} {source : ReferenceText}
    (h : ReferenceText.split? (c :: rest) = some (source, behind))
    (hskip : opened.isSome = true ∨ standsAlone before behind.head? = false) :
    editedFrom f opened before (c :: rest) =
      source.chars ++ editedFrom f opened source.chars.getLast? behind :=
  editedFrom_of_pieces (piecesFrom_skip h hskip)

theorem editedFrom_plain_cons {c : Char} (rest : List Char) (h : beginsCorner c = false) :
    editedFrom f opened before (c :: rest) =
      c :: editedFrom f (openQuote opened c) (some c) rest :=
  editedFrom_of_pieces_cons (piecesFrom_plain_cons rest h)

theorem head?_editedFrom {rest : List Char} (h : ∀ c ∈ rest.head?, beginsCorner c = false) :
    (editedFrom f opened before rest).head? = rest.head? := by
  cases rest with
  | nil => simp
  | cons c rest => rw [editedFrom_plain_cons _ (h c rfl), List.head?_cons, List.head?_cons]

/-! ## Quotes -/

theorem editedFrom_open {quote : Char} (hq : isQuote quote = true) (rest : List Char) :
    editedFrom f none before (quote :: rest) =
      quote :: editedFrom f (some quote) (some quote) rest :=
  editedFrom_of_pieces_cons (piecesFrom_open hq rest)

/-- What lies behind a quoted text may change, but for its first character. -/
theorem quotedBody_congr {quote : Char} {text body behind : List Char}
    (h : quotedBody quote text = (body, behind)) :
    ∃ run, text = run ++ behind ∧
      ∀ tail : List Char, tail.head? = behind.head? → quotedBody quote (run ++ tail) = (body, tail) := by
  have hnil : ∀ tail : List Char, tail.head? = [].head? → tail = [] := fun tail htail =>
    List.head?_eq_none_iff.1 htail
  fun_induction quotedBody quote text generalizing body with
  | case1 =>
    cases h
    exact ⟨[], rfl, fun tail htail => by rw [hnil tail htail]; rfl⟩
  | case2 =>
    cases h
    exact ⟨[quote], rfl, fun tail htail => by rw [hnil tail htail]; simp [quotedBody]⟩
  | case3 c hc =>
    cases h
    exact ⟨[c], rfl, fun tail htail => by rw [hnil tail htail]; simp [quotedBody, hc]⟩
  | case4 rest body' behind' hbody ih =>
    cases h
    obtain ⟨run, rfl, hrun⟩ := ih hbody
    refine ⟨quote :: quote :: run, rfl, fun tail htail => ?_⟩
    simp only [List.cons_append, quotedBody, if_true, hrun tail htail]
  | case5 d rest hd =>
    cases h
    refine ⟨[quote], rfl, fun tail htail => ?_⟩
    obtain ⟨more, rfl⟩ := List.head?_eq_some_iff.1 htail
    simp [quotedBody, hd]
  | case6 c d rest hc body' behind' hbody ih =>
    cases h
    obtain ⟨run, hrest, hrun⟩ := ih hbody
    refine ⟨c :: run, by rw [hrest]; rfl, fun tail htail => ?_⟩
    have hhead : (run ++ tail).head? = some d := by
      rw [List.head?_append, htail, ← List.head?_append, ← hrest]
      rfl
    obtain ⟨more, hmore⟩ := List.head?_eq_some_iff.1 hhead
    rw [List.cons_append, hmore, quotedBody, if_neg hc, ← hmore, hrun tail htail]

/-- A quoted text has the same body after an edit, if no reference follows it at once. -/
theorem quotedBody_editedFrom (f : Reference → Option String) (before : Option Char) {quote : Char}
    (hq : isQuote quote = true) {text body behind : List Char}
    (h : quotedBody quote text = (body, behind))
    (hbehind : ∀ c ∈ behind.head?, beginsCorner c = false) :
    ∃ last, quotedBody quote (editedFrom f (some quote) before text) =
      (body, editedFrom f none last behind) := by
  obtain ⟨run, last, htext, hpieces⟩ := piecesFrom_quotedBody before hq h
  obtain ⟨run', htext', hrun⟩ := quotedBody_congr h
  obtain rfl : run = run' := List.append_cancel_right (htext.symm.trans htext')
  refine ⟨last, ?_⟩
  rw [editedFrom_of_pieces hpieces]
  exact hrun _ (head?_editedFrom hbehind)

/-! ## Words -/

/-- The name of a function stays. -/
theorem editedFrom_function {run : List Char} (rest : List Char)
    (hrun : ∀ c ∈ run, continuesName c = true) :
    editedFrom f none before (run ++ '(' :: rest) =
      run ++ '(' :: editedFrom f none (some '(') rest := by
  rw [editedFrom_of_pieces (piecesFrom_name (Or.inl rfl) rest hrun), List.append_assoc]
  rfl

/-- Letters without digits behind them stay. -/
theorem editedFrom_letters (f : Reference → Option String) (before : Option Char)
    {letters tail : List Char} (hletters : ∀ c ∈ letters, c.isUpper = true)
    (htail : ∀ c ∈ tail.head?, beginsCorner c = false ∧ isDecimalDigit c = false) :
    ∃ last, editedFrom f none before (letters ++ tail) = letters ++ editedFrom f none last tail := by
  obtain ⟨last, hlast⟩ := piecesFrom_letters before hletters htail
  exact ⟨last, editedFrom_of_pieces hlast⟩

/-- A numeral stays. -/
theorem editedFrom_numeral (f : Reference → Option String) (before : Option Char)
    {numeral tail : List Char} (h : IsNumeral numeral)
    (hstart : ∃ c more, numeral = c :: more ∧ (isAsciiDigit c || c = '.') = true)
    (htail : ∀ c ∈ tail.head?, isDecimalDigit c = false ∧
      (c = ':' → CornerText.split? tail.tail = none)) :
    ∃ last, editedFrom f none before (numeral ++ tail) =
      numeral ++ editedFrom f none last tail := by
  obtain ⟨last, hlast⟩ := piecesFrom_numeral before h hstart htail
  exact ⟨last, editedFrom_of_pieces hlast⟩

/-! ## Operands -/

theorem Closes.editedFrom_eq {rest : List Char} (h : Closes rest) :
    editedFrom f none before rest = editedFrom f none none rest := by
  unfold editedFrom
  rw [h.piecesFrom_eq]

theorem Closes.editedFrom {rest : List Char} (h : Closes rest) :
    Closes (SheetPress.editedFrom f none before rest) := by
  unfold Closes
  rw [head?_editedFrom fun c hc => (of_isCloser (h c hc)).2.2.1]
  exact h

/-- An edit reaches a reference to one cell. -/
theorem editedFrom_corner {corner : CornerText} {ref : CellRef} {rest : List Char}
    (h : corner.Proper) (href : corner.ref? = some ref) (hbefore : Apart before)
    (hrest : Closes rest) :
    editedFrom f none before (corner.chars ++ rest) =
      (match f ⟨ref, none, false⟩ with
        | some text => text.toList
        | none => corner.chars) ++ editedFrom f none none rest := by
  unfold editedFrom
  rw [piecesFrom_corner h href hbefore.parts hrest, hbefore.not_qualified, List.flatMap_cons]
  rfl

/-- An edit reaches a reference to a range as a whole. -/
theorem editedFrom_corners {first last : CornerText} {a b : CellRef} {rest : List Char}
    (hfirst : first.Proper) (hlast : last.Proper) (ha : first.ref? = some a)
    (hb : last.ref? = some b) (hbefore : Apart before) (hrest : Closes rest) :
    editedFrom f none before (first.chars ++ ':' :: (last.chars ++ rest)) =
      (match f ⟨a, some b, false⟩ with
        | some text => text.toList
        | none => first.chars ++ ':' :: last.chars) ++ editedFrom f none none rest := by
  unfold editedFrom
  rw [piecesFrom_corners hfirst hlast ha hb hbefore.parts hrest, hbefore.not_qualified,
    List.flatMap_cons]
  rfl

/-! ## Edits that can fail -/

section Edits

variable {ε α β : Type}

theorem mapM_eq_ok_iff {f : α → Except ε β} {items : List α} {results : List β} :
    items.mapM f = .ok results ↔ List.Forall₂ (fun a b => f a = .ok b) items results := by
  induction items generalizing results with
  | nil =>
    rw [List.mapM_nil, List.forall₂_nil_left_iff]
    exact ⟨fun h => (Except.ok.inj h).symm, fun h => congrArg Except.ok h.symm⟩
  | cons a items ih =>
    rw [List.mapM_cons, List.forall₂_cons_left_iff]
    cases hfirst : f a with
    | error e =>
      constructor
      · intro h
        cases h
      · rintro ⟨b, rest, ⟨⟩, -, -⟩
    | ok b =>
      constructor
      · intro h
        cases hrest : items.mapM f with
        | error e => rw [hrest] at h; cases h
        | ok rest =>
          rw [hrest] at h
          exact ⟨b, rest, rfl, ih.1 hrest, (Except.ok.inj h).symm⟩
      · rintro ⟨b', rest, heq, hrest, rfl⟩
        obtain rfl := Except.ok.inj heq
        rw [ih.2 hrest]
        rfl

/-- An edit works piece by piece: it succeeds if it does so on all of them. -/
theorem editReferences_eq_ok_iff {f : Reference → Except ε (Option String)}
    {formula edited : String} :
    editReferences f formula = .ok edited ↔ ∃ parts, edited = String.ofList parts.flatten ∧
      List.Forall₂ (fun piece part => piece.edit f = .ok part) (piecesOf formula.toList) parts := by
  unfold editReferences
  constructor
  · intro h
    cases hparts : (piecesOf formula.toList).mapM (Piece.edit f) with
    | error e => rw [hparts] at h; cases h
    | ok parts =>
      rw [hparts] at h
      exact ⟨parts, (Except.ok.inj h).symm, mapM_eq_ok_iff.1 hparts⟩
  · rintro ⟨parts, rfl, hparts⟩
    rw [mapM_eq_ok_iff.2 hparts]
    rfl

end Edits

end SheetPress
