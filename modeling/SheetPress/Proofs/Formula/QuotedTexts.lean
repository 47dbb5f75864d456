import Mathlib
import SheetPress.Proofs.Formula.Foreign
import SheetPress.Proofs.Formula.Scanning

/-!
# Texts in quotes under an edit of references

An edit is asked about the references of a formula one after another.  It may fail, and it may
remember something from one reference to the next.  The formula need not parse, and its quotes need
not be closed.

* `exists_edits_of_run_eq_ok` — an edit that succeeds writes the pieces of the formula in order,
  with a new text in place of each reference that it gives one.
* `quotedFrom_edits` — the texts in quotes stay where references outside of them are replaced.
* `quotedTexts_editReferences` — both for a whole formula.
-/

namespace SheetPress

/-! ## Texts in quotes -/

/-- The texts in quotes from some place on, in order, each from its quote on.  `opened` is the quote
that is open there with the text from it on; what is never closed goes to the end. -/
def quotedFrom (opened : Option (Char × List Char)) : List Char → List (List Char)
  | [] => (opened.map Prod.snd).toList
  | c :: rest =>
    match opened with
    | some (quote, front) =>
      if c = quote then (front ++ [c]) :: quotedFrom none rest
      else quotedFrom (some (quote, front ++ [c])) rest
    | none => quotedFrom (if isQuote c then some (c, [c]) else none) rest

/-- The texts in quotes of a formula, literals and names of sheets alike, each with its quotes.  A
doubled quote ends one of them and begins the next. -/
def quotedTexts (formula : String) : List String :=
  (quotedFrom none formula.toList).map String.ofList

section Quoted

variable {opened : Option (Char × List Char)} {c : Char} {run run' rest rest' : List Char}

/-- The same character in front of two texts, which have the same texts in quotes behind the quote
that it leaves open. -/
theorem quotedFrom_cons_congr
    (h : ∀ opened', opened'.map Prod.fst = openQuote (opened.map Prod.fst) c →
      quotedFrom opened' rest = quotedFrom opened' rest') :
    quotedFrom opened (c :: rest) = quotedFrom opened (c :: rest') := by
  cases opened with
  | none =>
    refine h _ ?_
    cases hc : isQuote c <;> simp [openQuote_none, hc]
  | some span =>
    obtain ⟨quote, front⟩ := span
    by_cases hc : c = quote
    · have := h none (by simp [openQuote, hc])
      simp only [quotedFrom, if_pos hc, this]
    · have := h (some (quote, front ++ [c])) (by simp [openQuote, hc])
      simp only [quotedFrom, if_neg hc, this]

theorem quotedFrom_append_of_plain (rest : List Char) (hrun : ∀ c ∈ run, isQuote c = false) :
    quotedFrom none (run ++ rest) = quotedFrom none rest := by
  induction run with
  | nil => rfl
  | cons c run ih =>
    rw [List.cons_append, quotedFrom]
    simp only [hrun c (List.mem_cons_self ..), Bool.false_eq_true, if_false]
    exact ih fun d hd => hrun d (List.mem_cons_of_mem _ hd)

/-- Outside of quotes, a run without quotes may be replaced by another one. -/
theorem quotedFrom_append_congr (hrun : ∀ c ∈ run, isQuote c = false)
    (hrun' : ∀ c ∈ run', isQuote c = false) (h : quotedFrom none rest = quotedFrom none rest') :
    quotedFrom none (run ++ rest) = quotedFrom none (run' ++ rest') := by
  rw [quotedFrom_append_of_plain rest hrun, quotedFrom_append_of_plain rest' hrun', h]

end Quoted

/-! ## What an edit does to each piece -/

/-- What an edit does to a piece: it keeps it, or it writes a new text in place of a reference. -/
inductive PieceEdit where
  | kept (piece : Piece)
  | replaced (source : ReferenceText) (ref : Reference) (new : String)

namespace PieceEdit

/-- The piece as it was. -/
def piece : PieceEdit → Piece
  | kept piece => piece
  | replaced source ref _ => .reference source ref

/-- What is written for the piece. -/
def written : PieceEdit → List Char
  | kept piece => piece.chars
  | replaced _ _ new => new.toList

/-- The answer about a reference: a new text, or none where it is kept.  Nothing is asked about a
single character. -/
def answer? : PieceEdit → Option (Option String)
  | kept (.char _) => none
  | kept (.reference ..) => some none
  | replaced _ _ new => some (some new)

end PieceEdit

/-- The texts in quotes stay where references outside of quotes are replaced by texts without
quotes. -/
theorem quotedFrom_edits {edits : List PieceEdit} {opened : Option (Char × List Char)}
    (hunquoted : ReferencesUnquoted (opened.map Prod.fst) (edits.map PieceEdit.piece))
    (hplain : ∀ edit ∈ edits, ∀ new, edit.answer? = some (some new) →
      ∀ c ∈ new.toList, isQuote c = false) :
    quotedFrom opened (edits.flatMap PieceEdit.written) =
      quotedFrom opened (edits.flatMap (·.piece.chars)) := by
  induction edits generalizing opened with
  | nil => rfl
  | cons edit edits ih =>
    have hplain' := fun edit hedit => hplain edit (List.mem_cons_of_mem _ hedit)
    rw [List.flatMap_cons, List.flatMap_cons]
    cases edit with
    | kept piece =>
      cases piece with
      | char c =>
        refine quotedFrom_cons_congr fun opened' hopened' => ih ?_ hplain'
        rw [hopened']
        exact hunquoted
      | reference source ref =>
        obtain ⟨hnone, hsource, hrest⟩ := hunquoted
        obtain rfl : opened = none := Option.map_eq_none_iff.1 hnone
        exact quotedFrom_append_congr hsource hsource (ih hrest hplain')
    | replaced source ref new =>
      obtain ⟨hnone, hsource, hrest⟩ := hunquoted
      obtain rfl : opened = none := Option.map_eq_none_iff.1 hnone
      have hnew := hplain _ (List.mem_cons_self ..) new rfl
      exact quotedFrom_append_congr hnew hsource (ih hrest hplain')

/-! ## Runs that succeed -/

section Runs

variable {σ α β : Type} {ε : Type*} {s s' t : σ}

theorem exists_of_run_bind_eq_ok {x : StateT σ (Except ε) α} {g : α → StateT σ (Except ε) β} {b : β}
    (h : (x >>= g).run s = .ok (b, s')) :
    ∃ a t, x.run s = .ok (a, t) ∧ (g a).run t = .ok (b, s') := by
  rw [StateT.run_bind] at h
  cases hx : x.run s with
  | error e => rw [hx] at h; cases h
  | ok r => rw [hx] at h; exact ⟨r.1, r.2, rfl, h⟩

theorem exists_of_run_map_eq_ok {x : StateT σ (Except ε) α} {g : α → β} {b : β}
    (h : (g <$> x).run s = .ok (b, s')) : ∃ a, x.run s = .ok (a, s') ∧ b = g a := by
  rw [map_eq_pure_bind] at h
  obtain ⟨a, t, ha, hb⟩ := exists_of_run_bind_eq_ok h
  cases hb
  exact ⟨a, ha, rfl⟩

variable {f : α → StateT σ (Except ε) β} {items items' : List α} {results results' : List β}

theorem exists_of_run_mapM_cons_eq_ok {a : α}
    (h : ((a :: items).mapM f).run s = .ok (results, s')) :
    ∃ b t rest, (f a).run s = .ok (b, t) ∧ (items.mapM f).run t = .ok (rest, s') ∧
      results = b :: rest := by
  rw [List.mapM_cons] at h
  obtain ⟨b, t, hb, h⟩ := exists_of_run_bind_eq_ok h
  obtain ⟨rest, t', hrest, h⟩ := exists_of_run_bind_eq_ok h
  cases h
  exact ⟨b, t, rest, hb, hrest, rfl⟩

theorem run_mapM_append_eq_ok (h : (items.mapM f).run s = .ok (results, t))
    (h' : (items'.mapM f).run t = .ok (results', s')) :
    ((items ++ items').mapM f).run s = .ok (results ++ results', s') := by
  rw [List.mapM_append, StateT.run_bind, h]
  show (items'.mapM f >>= fun rest => pure (results ++ rest)).run t = _
  rw [StateT.run_bind, h']
  rfl

/-- Every result of a run over a list was given for one of its items. -/
theorem exists_of_mem_of_run_mapM_eq_ok (h : (items.mapM f).run s = .ok (results, s')) {b : β}
    (hb : b ∈ results) : ∃ a ∈ items, ∃ t t', (f a).run t = .ok (b, t') := by
  induction items generalizing s results with
  | nil =>
    cases h
    cases hb
  | cons a items ih =>
    obtain ⟨b', t, rest, ha, hrest, rfl⟩ := exists_of_run_mapM_cons_eq_ok h
    rcases List.mem_cons.1 hb with rfl | hb
    · exact ⟨a, List.mem_cons_self .., s, t, ha⟩
    · obtain ⟨a', hmem, hrun⟩ := ih hrest hb
      exact ⟨a', List.mem_cons_of_mem _ hmem, hrun⟩

end Runs

/-! ## Whole formulas -/

section Edits

variable {σ : Type} {ε : Type*} {f : Reference → StateT σ (Except ε) (Option String)} {s s' : σ}

/-- What an edit does to a piece, and what it answers if the piece is a reference. -/
theorem Piece.exists_edit_of_run_eq_ok {piece : Piece} {part : List Char}
    (h : (piece.edit f).run s = .ok (part, s')) :
    ∃ edit : PieceEdit, edit.piece = piece ∧ edit.written = part ∧
      (piece.reference?.toList.mapM f).run s = .ok (edit.answer?.toList, s') := by
  cases piece with
  | char c =>
    cases h
    exact ⟨.kept (.char c), rfl, rfl, rfl⟩
  | reference source ref =>
    obtain ⟨answer, hanswer, rfl⟩ := exists_of_run_map_eq_ok h
    have hrun : ([ref].mapM f).run s = .ok ([answer], s') := by
      rw [List.mapM_cons, StateT.run_bind, hanswer]
      rfl
    cases answer with
    | none => exact ⟨.kept (.reference source ref), rfl, rfl, hrun⟩
    | some new => exact ⟨.replaced source ref new, rfl, rfl, hrun⟩

/-- What an edit does to several pieces, and what it answers about their references. -/
theorem exists_edits_of_run_mapM_eq_ok {pieces : List Piece} {parts : List (List Char)}
    (h : (pieces.mapM (Piece.edit f)).run s = .ok (parts, s')) :
    ∃ edits : List PieceEdit, edits.map PieceEdit.piece = pieces ∧
      edits.map PieceEdit.written = parts ∧
      ((pieces.filterMap Piece.reference?).mapM f).run s =
        .ok (edits.filterMap PieceEdit.answer?, s') := by
  induction pieces generalizing s parts with
  | nil =>
    cases h
    exact ⟨[], rfl, rfl, rfl⟩
  | cons piece pieces ih =>
    obtain ⟨part, t, rest, hpart, hrest, rfl⟩ := exists_of_run_mapM_cons_eq_ok h
    obtain ⟨edit, rfl, rfl, hanswer⟩ := Piece.exists_edit_of_run_eq_ok hpart
    obtain ⟨edits, rfl, rfl, hanswers⟩ := ih hrest
    refine ⟨edit :: edits, rfl, rfl, ?_⟩
    simp only [List.filterMap_eq_flatMap_toList, List.flatMap_cons] at hanswers ⊢
    exact run_mapM_append_eq_ok hanswer hanswers

/-- An edit that succeeds is asked about each reference of the formula once, in order, and writes
the pieces of the formula with its answers. -/
theorem exists_edits_of_run_eq_ok {formula edited : String}
    (h : (editReferences f formula).run s = .ok (edited, s')) :
    ∃ edits : List PieceEdit, edits.map PieceEdit.piece = piecesOf formula.toList ∧
      ((referencesOf formula).mapM f).run s = .ok (edits.filterMap PieceEdit.answer?, s') ∧
      edited.toList = edits.flatMap PieceEdit.written := by
  obtain ⟨parts, hparts, rfl⟩ := exists_of_run_map_eq_ok h
  obtain ⟨edits, hpieces, rfl, hanswers⟩ := exists_edits_of_run_mapM_eq_ok hparts
  refine ⟨edits, hpieces, ?_, ?_⟩
  · rwa [referencesOf_eq_scannedFrom]
  · rw [String.toList_ofList, List.flatMap]

/-- An edit never reaches into quotes: where its new texts have no quotes in them, the edited
formula has the texts in quotes of the formula, in order.  Both are written from the same pieces.  A
piece is kept, or it is a reference and the edit, asked about the references one after another, gave
it a new text. -/
theorem quotedTexts_editReferences {formula edited : String}
    (hplain : ∀ ref ∈ referencesOf formula, ∀ t new t', (f ref).run t = .ok (some new, t') →
      ∀ c ∈ new.toList, isQuote c = false)
    (h : (editReferences f formula).run s = .ok (edited, s')) :
    quotedTexts edited = quotedTexts formula ∧
      ∃ edits : List PieceEdit, edits.map PieceEdit.piece = piecesOf formula.toList ∧
        ((referencesOf formula).mapM f).run s = .ok (edits.filterMap PieceEdit.answer?, s') ∧
        formula.toList = edits.flatMap (·.piece.chars) ∧
        edited.toList = edits.flatMap PieceEdit.written := by
  obtain ⟨edits, hpieces, hanswers, hedited⟩ := exists_edits_of_run_eq_ok h
  have hformula : formula.toList = edits.flatMap (·.piece.chars) := by
    rw [← chars_piecesOf formula.toList, ← hpieces, List.flatMap_map]
  refine ⟨?_, edits, hpieces, hanswers, hformula, hedited⟩
  have hunquoted : ReferencesUnquoted none (edits.map PieceEdit.piece) :=
    hpieces ▸ referencesUnquoted_piecesFrom (by simp)
  have hnew : ∀ edit ∈ edits, ∀ new, edit.answer? = some (some new) →
      ∀ c ∈ new.toList, isQuote c = false := by
    intro edit hedit new hanswer
    have hmem : some new ∈ edits.filterMap PieceEdit.answer? :=
      List.mem_filterMap.2 ⟨edit, hedit, hanswer⟩
    obtain ⟨ref, href, t, t', hrun⟩ := exists_of_mem_of_run_mapM_eq_ok hanswers hmem
    exact hplain ref href t new t' hrun
  have hquoted : quotedFrom none (edits.flatMap PieceEdit.written) =
      quotedFrom none (edits.flatMap (·.piece.chars)) := quotedFrom_edits hunquoted hnew
  rw [quotedTexts, quotedTexts, hedited, hformula, hquoted]

end Edits

/-- An edit that counts the references and loses every other one. -/
def loseEveryOther (_ : Reference) : StateT Nat (Except String) (Option String) := fun count =>
  .ok (if count % 2 = 0 then some referenceErrorText else none, count + 1)

/-- A formula with a doubled quote, a quote in quotes of the other kind and one that is never
closed. -/
def quotesFormula : String := "=\"é\"\"A1\"&B2&'O\"A1'!C3&B2&\"D4"

theorem quotedTexts_editReferences_loseEveryOther :
    (∀ ref ∈ referencesOf quotesFormula, ∀ t new t',
        (loseEveryOther ref).run t = .ok (some new, t') → ∀ c ∈ new.toList, isQuote c = false) ∧
      (editReferences loseEveryOther quotesFormula).run 0 =
        .ok ("=\"é\"\"A1\"&#REF!&'O\"A1'!C3&#REF!&\"D4", 3) ∧
      quotedTexts quotesFormula = ["\"é\"", "\"A1\"", "'O\"A1'", "\"D4"] ∧
      quotedTexts "=\"é\"\"A1\"&#REF!&'O\"A1'!C3&#REF!&\"D4" = quotedTexts quotesFormula ∧
      ∃ edits : List PieceEdit, edits.map PieceEdit.piece = piecesOf quotesFormula.toList ∧
        ((referencesOf quotesFormula).mapM loseEveryOther).run 0 =
          .ok (edits.filterMap PieceEdit.answer?, 3) ∧
        quotesFormula.toList = edits.flatMap (·.piece.chars) ∧
        "=\"é\"\"A1\"&#REF!&'O\"A1'!C3&#REF!&\"D4".toList = edits.flatMap PieceEdit.written := by
  have hplain : ∀ ref ∈ referencesOf quotesFormula, ∀ t new t',
      (loseEveryOther ref).run t = .ok (some new, t') → ∀ c ∈ new.toList, isQuote c = false := by
    intro ref _ t new t' h
    have hanswer : (if t % 2 = 0 then some referenceErrorText else none) = some new :=
      congrArg Prod.fst (Except.ok.inj h)
    split at hanswer
    · obtain rfl := Option.some.inj hanswer
      exact forall_mem_of_all (by decide)
    · cases hanswer
  have hrun : (editReferences loseEveryOther quotesFormula).run 0 =
      .ok ("=\"é\"\"A1\"&#REF!&'O\"A1'!C3&#REF!&\"D4", 3) := by decide +kernel
  exact ⟨hplain, hrun, by decide +kernel, quotedTexts_editReferences hplain hrun⟩

end SheetPress
