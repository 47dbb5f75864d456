import Mathlib
import SheetPress.Proofs.Formula.Rewriting
import SheetPress.Proofs.Formula.Tidy

/-!
# What the scanner finds

References are found twice: by the parser in the tokens of a formula, and by the scanner in its
text.  In a tidy formula both find the same ones, in the same order.

* `Derives.scansAs` — what the scanner finds in the text of a phrase.
* `referencesOf_eq_of_isTidy` — the same for whole formulas.
-/

namespace SheetPress

/-- A reference to a cell or to a range as the scanner reports it. -/
def Expr.reference? : Expr → Option Reference
  | .cell sheet a => some ⟨a, none, sheet.isSome⟩
  | .range sheet a b => some ⟨a, some b, sheet.isSome⟩
  | _ => none

/-- The reference of a piece, if it is one. -/
def Piece.reference? : Piece → Option Reference
  | .char _ => none
  | .reference _ ref => some ref

/-- The references that the scanner finds from some place on, given the quote that is open there and
the character in front. -/
def scannedFrom (opened before : Option Char) (text : List Char) : List Reference :=
  (piecesFrom opened before text).filterMap Piece.reference?

theorem referencesOf_eq_scannedFrom (formula : String) :
    referencesOf formula = scannedFrom none none formula.toList := by
  unfold referencesOf scannedFrom piecesOf
  congr 1
  funext piece
  cases piece <;> rfl

variable {opened opened' before last : Option Char}

/-- Nothing is found where a text is cut into single characters. -/
theorem scannedFrom_of_pieces {text run tail : List Char}
    (h : piecesFrom opened before text = run.map .char ++ piecesFrom opened' last tail) :
    scannedFrom opened before text = scannedFrom opened' last tail := by
  unfold scannedFrom
  rw [h, List.filterMap_append, List.filterMap_map]
  simp [Function.comp_def, Piece.reference?]

/-! ## Blanks and ends -/

/-- An operand may end in front of this text, with blanks behind it or not. -/
def Ends (rest : List Char) : Prop := Closes (trimStartChars rest)

theorem Ends.closes {rest : List Char} (h : Ends rest) : Closes rest := by
  intro c hc
  cases hblank : isBlank c with
  | true => simp [isCloser, hblank]
  | false =>
    refine h c ?_
    rwa [trimStartChars_eq fun d hd => by rw [hc] at hd; rwa [← Option.some.inj hd]]

theorem Ends.scannedFrom_eq {rest : List Char} (h : Ends rest) :
    scannedFrom none before rest = scannedFrom none none rest := by
  unfold scannedFrom
  rw [h.closes.piecesFrom_eq]

/-- What the scanner finds behind blanks. -/
theorem scannedFrom_blanks {blanks : List Char} (hblanks : ∀ b ∈ blanks, isBlank b = true)
    (hbefore : Apart before) :
    ∃ last, Apart last ∧
      ∀ rest, scannedFrom none before (blanks ++ rest) = scannedFrom none last rest := by
  refine ⟨blanks.getLast?.or before, fun c hc => ?_, fun rest => ?_⟩
  · cases hlast : blanks.getLast? with
    | none =>
      rw [hlast] at hc
      exact hbefore c hc
    | some b =>
      rw [hlast] at hc
      obtain rfl : b = c := by simpa using hc
      have := of_isBlank (hblanks b (List.mem_of_getLast? hlast))
      exact ⟨this.2.1, this.2.2.2.2.2.2.1, this.2.2.2.2.2.2.2.1⟩
  · refine scannedFrom_of_pieces (piecesFrom_plain rest fun b hb => ?_)
    have := of_isBlank (hblanks b hb)
    refine ⟨this.2.2.1, ?_, ?_⟩ <;> (rintro rfl; exact absurd this.2.2.2.1 (by decide))

/-- What the scanner finds behind a symbol. -/
theorem scannedFrom_symbol (symbol : Symbol) (h : symbol ≠ .exclamation) :
    ∃ last, Apart last ∧ ∀ before rest,
      scannedFrom none before (symbol.text.toList ++ rest) = scannedFrom none last rest := by
  obtain ⟨last, hlast, hpieces⟩ := piecesFrom_symbol symbol h
  exact ⟨last, hlast, fun before rest => scannedFrom_of_pieces (hpieces before rest)⟩

theorem Ends.ne_marks {rest : List Char} (h : Ends rest) :
    ∀ c ∈ (trimStartChars rest).head?, c ≠ '(' ∧ c ≠ '!' := fun c hc =>
  ⟨(of_isCloser (h c hc)).2.2.2.2.2.2.2.2.1, (of_isCloser (h c hc)).2.2.2.2.2.2.2.1⟩

/-! ## References -/

/-- What the scanner finds in the text of a phrase: the references of its expression, and then what
is behind it. -/
def Scans (before : Option Char) (text rest : List Char) (e : Expr) : Prop :=
  scannedFrom none before text =
    e.references.filterMap Expr.reference? ++ scannedFrom none none rest

/-- A name in capitals is written as its token says. -/
theorem eq_of_nameToken_eq_name {name : String} {word : List Char}
    (htoken : .name name = nameToken word) (hlower : ∀ c ∈ word, c.isLower = false) :
    word = name.toList := by
  rcases nameToken_cases word with ⟨b, hb⟩ | hn
  · rw [hb] at htoken
    cases htoken
  · rw [hn, map_toUpper_of_isLower_eq_false hlower] at htoken
    cases htoken
    rw [String.toList_ofList]

section Phrases

variable {text rest : List Char} {e : Expr}

/-- The two names of a range or of whole columns. -/
theorem TidyLexes.exists_names {first last : String}
    (hlex : TidyLexes text [.name first, .symbol .colon, .name last] rest)
    (htext : ∀ c ∈ text.head?, isBlank c = false) (hrest : Ends rest) :
    text = first.toList ++ ':' :: (last.toList ++ rest) ∧
      (∀ c ∈ first.toList, c.isLower = false) ∧ ∀ c ∈ last.toList, c.isLower = false := by
  obtain ⟨word, mid, rfl, -, htoken, htidy, hlex⟩ := hlex.exists_word htext (.inr ⟨first, rfl⟩)
  obtain ⟨mid, rfl, hmid, hlex⟩ := hlex.exists_mark (.inl rfl)
  obtain ⟨word', mid, rfl, -, htoken', htidy', hlex⟩ := hlex.exists_word hmid (.inr ⟨last, rfl⟩)
  cases hlex
  have hcolon : ∀ c ∈ (Symbol.colon.text.toList ++ (word' ++ rest)).head?, isBlank c = false := by
    intro c hc
    obtain rfl : ':' = c := by simpa [Symbol.text] using hc
    decide +kernel
  have hlower := isLower_of_isTidy (.inr ⟨first, rfl⟩) htidy fun c hc => by
    rw [trimStartChars_eq hcolon] at hc
    obtain rfl : ':' = c := by simpa [Symbol.text] using hc
    decide
  have hlower' := isLower_of_isTidy (.inr ⟨last, rfl⟩) htidy' hrest.ne_marks
  obtain rfl := eq_of_nameToken_eq_name htoken hlower
  obtain rfl := eq_of_nameToken_eq_name htoken' hlower'
  exact ⟨rfl, hlower, hlower'⟩

/-- A reference is found, with the name of its sheet in front of it or without. -/
theorem ReferenceBody.scans {sheet : Option String} {ts : List Token} (h : ReferenceBody sheet ts e)
    (hlex : TidyLexes text ts rest) (htext : ∀ c ∈ text.head?, isBlank c = false)
    (hbefore : Parts before) (hsheet : (before == some '!') = sheet.isSome) (hrest : Ends rest) :
    Scans before text rest e := by
  unfold Scans
  cases h with
  | @cell name a ha =>
    obtain ⟨word, mid, rfl, -, htoken, htidy, hlex⟩ := hlex.exists_word htext (.inr ⟨name, rfl⟩)
    cases hlex
    have hlower := isLower_of_isTidy (.inr ⟨name, rfl⟩) htidy hrest.ne_marks
    obtain rfl := eq_of_nameToken_eq_name htoken hlower
    obtain ⟨corner, hproper, hchars, href, -⟩ := exists_corner_of_cellRef ha hlower
    unfold scannedFrom
    rw [hchars, piecesFrom_corner hproper href hbefore hrest.closes, hsheet]
    rfl
  | range ha hb =>
    obtain ⟨rfl, hlower, hlower'⟩ := hlex.exists_names htext hrest
    obtain ⟨corner, hproper, hchars, href, -⟩ := exists_corner_of_cellRef ha hlower
    obtain ⟨corner', hproper', hchars', href', -⟩ := exists_corner_of_cellRef hb hlower'
    unfold scannedFrom
    rw [hchars, hchars', piecesFrom_corners hproper hproper' href href' hbefore hrest.closes, hsheet]
    rfl
  | @columns first last a b ha hb =>
    obtain ⟨rfl, hlower, hlower'⟩ := hlex.exists_names htext hrest
    obtain ⟨letters, hletters, hupper⟩ := exists_letters_of_columnRef? ha hlower
    obtain ⟨letters', hletters', hupper'⟩ := exists_letters_of_columnRef? hb hlower'
    rw [hletters, hletters', scannedFrom_of_pieces
      (piecesFrom_columns before a.fixed b.fixed hupper hupper' hrest.closes)]
    rfl
  | rows ha hb =>
    obtain ⟨numeral, mid, rfl, hnumeral, hstart, hlex⟩ := hlex.exists_numeral htext
    obtain ⟨mid, rfl, hmid, hlex⟩ := hlex.exists_mark (.inl rfl)
    obtain ⟨numeral', mid, rfl, hnumeral', hstart', hlex⟩ := hlex.exists_numeral hmid
    cases hlex
    exact scannedFrom_of_pieces
      (piecesFrom_rows before hnumeral hnumeral' hstart hstart' hrest.closes)

/-- A reference with the name of its sheet. -/
theorem scans_reference {sheet : Option String} {lead body : List Token}
    (hlead : SheetPrefix sheet lead) (hbody : ReferenceBody sheet body e)
    (hlex : TidyLexes text (lead ++ body) rest) (htext : ∀ c ∈ text.head?, isBlank c = false)
    (hbefore : Apart before) (hrest : Ends rest) : Scans before text rest e := by
  have hmark : Parts (some '!') := by
    intro c hc
    obtain rfl : '!' = c := by simpa using hc
    decide +kernel
  cases hlead with
  | none => exact hbody.scans hlex htext hbefore.parts hbefore.not_qualified hrest
  | name sheet =>
    obtain ⟨word, mid, rfl, hname, -, -, hlex⟩ := hlex.exists_word htext (.inr ⟨sheet, rfl⟩)
    obtain ⟨mid, rfl, hmid, hlex⟩ := hlex.exists_mark (.inr rfl)
    have hscans := hbody.scans hlex hmid hmark rfl hrest
    unfold Scans at hscans ⊢
    rw [← hscans]
    exact scannedFrom_of_pieces (piecesFrom_name (.inr rfl) mid hname.continues)
  | quoted sheet =>
    obtain ⟨more, rfl, hmarked⟩ := hlex.exists_quotedName htext
    obtain ⟨mid, hbehind, hmid, hlex'⟩ := hmarked.exists_mark (.inr rfl)
    have hscans := hbody.scans hlex' hmid hmark rfl hrest
    unfold Scans at hscans ⊢
    have hquoted : quotedBody '\'' more = ((quotedBody '\'' more).1, '!' :: mid) :=
      Prod.ext rfl hbehind
    obtain ⟨run, last, -, hpieces⟩ := piecesFrom_quotedBody (some '\'') (by decide) hquoted
    rw [piecesFrom_plain_cons _ (by decide)] at hpieces
    have hopen : piecesFrom none before ('\'' :: more) =
        ('\'' :: run ++ ['!']).map .char ++ piecesFrom none (some '!') mid := by
      rw [piecesFrom_open (by decide), hpieces]
      simp [openQuote]
    rw [scannedFrom_of_pieces hopen, hscans]

end Phrases

/-! ## Phrases -/

/-- Wherever a phrase is written tidily, the scanner finds the references of its expression in it. -/
def ScansAs (ts : List Token) (e : Expr) : Prop :=
  ∀ ⦃before : Option Char⦄ ⦃text rest : List Char⦄, TidyLexes text ts rest → Apart before →
    Ends rest → Scans before text rest e

/-- Blanks in front of a phrase make no difference. -/
theorem scansAs_of_unspaced {t : Token} {ts : List Token} {e : Expr}
    (h : ∀ ⦃before : Option Char⦄ ⦃text rest : List Char⦄, TidyLexes text (t :: ts) rest →
      (∀ c ∈ text.head?, isBlank c = false) → Apart before → Ends rest → Scans before text rest e) :
    ScansAs (t :: ts) e := by
  intro before text rest hlex hbefore hrest
  obtain ⟨blanks, front, rfl, hblanks, hfront, hlex⟩ := hlex.exists_blanks
  obtain ⟨last, hlast, hscanned⟩ := scannedFrom_blanks hblanks hbefore
  unfold Scans
  rw [hscanned]
  exact h hlex hfront hlast hrest

section Symbols

variable {ts us : List Token} {e : Expr} {symbol : Symbol} {text rest : List Char}

/-- What the scanner finds behind a symbol, with blanks in front of it or not. -/
theorem TidyLexes.exists_scanned (hlex : TidyLexes text (.symbol symbol :: us) rest)
    (hsymbol : symbol ≠ .exclamation) (hbefore : Apart before) :
    ∃ mid last, TidyLexes mid us rest ∧ Apart last ∧
      scannedFrom none before text = scannedFrom none last mid := by
  obtain ⟨blanks, front, rfl, hblanks, hfront, hunspaced⟩ := hlex.exists_blanks
  obtain ⟨last, -, hscanned⟩ := scannedFrom_blanks hblanks hbefore
  obtain ⟨mid, rfl, hmid⟩ := hunspaced.exists_symbol hfront
  obtain ⟨last', hlast', hscanned'⟩ := scannedFrom_symbol symbol hsymbol
  exact ⟨mid, last', hmid, hlast', by rw [hscanned, hscanned']⟩

theorem TidyLexes.ends (hlex : TidyLexes text (.symbol symbol :: us) rest)
    (hcloses : symbol.closes = true) : Ends text := by
  obtain ⟨mid, htrim, -⟩ := hlex.trimStartChars_of_symbol
  rw [Ends, htrim]
  exact closes_symbol hcloses mid

/-- A phrase, a symbol behind it and what follows. -/
theorem ScansAs.exists_symbol (h : ScansAs ts e) (hcloses : symbol.closes = true)
    (hlex : TidyLexes text (ts ++ .symbol symbol :: us) rest) (hbefore : Apart before) :
    ∃ mid last, TidyLexes mid us rest ∧ Apart last ∧
      scannedFrom none before text =
        e.references.filterMap Expr.reference? ++ scannedFrom none last mid := by
  obtain ⟨mid, hfront, hback⟩ := hlex.exists_mid
  have hnone : Apart none := by simp [Apart]
  obtain ⟨mid', last, hlex', hlast, hscanned⟩ := hback.exists_scanned
    (by rintro rfl; cases hcloses) hnone
  exact ⟨mid', last, hlex', hlast, by rw [h hfront hbefore (hback.ends hcloses), hscanned]⟩

/-- A symbol and the phrase behind it. -/
theorem ScansAs.behind_symbol (h : ScansAs ts e) (hsymbol : symbol ≠ .exclamation) :
    ScansAs (.symbol symbol :: ts) e := by
  intro before text rest hlex hbefore hrest
  obtain ⟨mid, last, hlex', hlast, hscanned⟩ := hlex.exists_scanned hsymbol hbefore
  exact hscanned.trans (h hlex' hlast hrest)

/-- A phrase with a symbol behind it. -/
theorem ScansAs.before_symbol (h : ScansAs ts e) (hcloses : symbol.closes = true) :
    ScansAs (ts ++ [.symbol symbol]) e := by
  intro before text rest hlex hbefore hrest
  obtain ⟨mid, last, hlex', -, hscanned⟩ := h.exists_symbol hcloses hlex hbefore
  cases hlex'
  rw [Scans, hscanned, hrest.scannedFrom_eq]

/-- Two phrases with a symbol between them. -/
theorem ScansAs.between {e' : Expr} (h : ScansAs ts e) (h' : ScansAs us e')
    (hcloses : symbol.closes = true) (hlex : TidyLexes text (ts ++ .symbol symbol :: us) rest)
    (hbefore : Apart before) (hrest : Ends rest) :
    scannedFrom none before text = (e.references ++ e'.references).filterMap Expr.reference? ++
      scannedFrom none none rest := by
  obtain ⟨mid, last, hlex', hlast, hscanned⟩ := h.exists_symbol hcloses hlex hbefore
  rw [hscanned, h' hlex' hlast hrest, List.filterMap_append, List.append_assoc]

end Symbols

/-- The arguments of a call, up to the closing parenthesis. -/
theorem scansArguments {args : List (List Token × Expr)} (h : ∀ arg ∈ args, ScansAs arg.1 arg.2)
    {text rest : List Char}
    (hlex : TidyLexes text (commaSeparated (args.map (·.1)) ++ [.symbol .closeParen]) rest)
    (hbefore : Apart before) (hrest : Ends rest) :
    scannedFrom none before text =
      (args.flatMap (·.2.references)).filterMap Expr.reference? ++ scannedFrom none none rest := by
  induction args generalizing before text with
  | nil =>
    obtain ⟨mid, last, hlex', -, hscanned⟩ := hlex.exists_scanned (by decide) hbefore
    cases hlex'
    rw [hscanned, hrest.scannedFrom_eq]
    rfl
  | cons arg args ih =>
    have harg := h arg (List.mem_cons_self ..)
    cases args with
    | nil =>
      have hcloses : Symbol.closeParen.closes = true := rfl
      have := harg.before_symbol hcloses hlex hbefore hrest
      simpa [Scans] using this
    | cons next args =>
      rw [List.map_cons, List.map_cons, commaSeparated_cons_cons, List.append_assoc,
        List.cons_append] at hlex
      obtain ⟨mid, last, hlex', hlast, hscanned⟩ := harg.exists_symbol rfl hlex hbefore
      rw [hscanned, ih (fun a ha => h a (List.mem_cons_of_mem _ ha)) hlex' hlast,
        List.flatMap_cons (x := arg), List.filterMap_append, List.append_assoc]

/-- The scanner finds the references of a phrase. -/
theorem Derives.scansAs {phrase : Phrase} {ts : List Token} {e : Expr} (h : Derives phrase ts e) :
    ScansAs ts e := by
  induction h with
  | number x =>
    refine scansAs_of_unspaced fun before text rest hlex htext _ hrest => ?_
    obtain ⟨numeral, mid, rfl, hnumeral, hstart, hlex⟩ := hlex.exists_numeral htext
    cases hlex
    obtain ⟨last, hpieces⟩ := piecesFrom_numeral before hnumeral hstart hrest.closes.ends_corners
    exact (scannedFrom_of_pieces hpieces).trans hrest.scannedFrom_eq
  | text s =>
    refine scansAs_of_unspaced fun before text rest hlex htext _ hrest => ?_
    obtain ⟨more, rfl, hend⟩ := hlex.exists_text htext
    generalize hbody : quotedBody '"' more = r at hend
    obtain ⟨body, behind⟩ := r
    cases hend
    obtain ⟨run, last, -, hpieces⟩ := piecesFrom_quotedBody (some '"') (by decide) hbody
    have hopen : piecesFrom none before ('"' :: more) =
        ('"' :: run).map .char ++ piecesFrom none last behind := by
      rw [piecesFrom_open (by decide), hpieces]
      rfl
    exact (scannedFrom_of_pieces hopen).trans hrest.scannedFrom_eq
  | boolean b =>
    refine scansAs_of_unspaced fun before text rest hlex htext _ hrest => ?_
    obtain ⟨word, mid, rfl, -, htoken, htidy, hlex⟩ := hlex.exists_word htext (.inl ⟨b, rfl⟩)
    cases hlex
    have hlower := isLower_of_isTidy (.inl ⟨b, rfl⟩) htidy hrest.ne_marks
    have hupper : ∀ c ∈ word, c.isUpper = true := by
      rcases eq_of_nameToken_eq_boolean htoken.symm hlower with rfl | rfl <;>
        exact forall_mem_of_all (by decide)
    obtain ⟨last, hpieces⟩ := piecesFrom_letters before hupper hrest.closes.ends_letters
    exact (scannedFrom_of_pieces hpieces).trans hrest.scannedFrom_eq
  | @reference sheet lead body e hlead hbody =>
    obtain ⟨t, us, hcons⟩ : ∃ t us, lead ++ body = t :: us := by
      cases hlead <;> cases hbody <;> exact ⟨_, _, rfl⟩
    rw [hcons]
    refine scansAs_of_unspaced fun before text rest hlex htext hbefore hrest => ?_
    rw [← hcons] at hlex
    exact scans_reference hlead hbody hlex htext hbefore hrest
  | call name args _ ih =>
    refine scansAs_of_unspaced fun before text rest hlex htext hbefore hrest => ?_
    obtain ⟨word, mid, rfl, hname, -, htidy, hlex⟩ := hlex.exists_word htext (.inr ⟨name, rfl⟩)
    obtain ⟨more, rfl, harguments⟩ := hlex.exists_paren (.inr ⟨name, rfl⟩) htidy
    have hapart : Apart (some '(') := by
      intro c hc
      obtain rfl : '(' = c := by simpa using hc
      decide +kernel
    rw [Scans, scannedFrom_of_pieces (piecesFrom_name (.inl rfl) more hname.continues),
      scansArguments ih harguments hapart hrest, Expr.references, Expr.referencesAll_eq_flatMap,
      List.flatMap_map]
  | group _ ih => exact (ih.before_symbol rfl).behind_symbol (by decide)
  | unmarked _ ih => exact ih
  | percent _ ih => exact ih.before_symbol rfl
  | base _ ih => exact ih
  | power _ _ ihl ihr =>
    intro before text rest hlex hbefore hrest
    exact ihl.between ihr rfl hlex hbefore hrest
  | unsigned _ ih => exact ih
  | negate _ ih => exact ih.behind_symbol (by decide)
  | plus _ ih => exact ih.behind_symbol (by decide)
  | operand _ ih => exact ih
  | chain hop _ _ ihl ihr =>
    intro before text rest hlex hbefore hrest
    exact ihl.between ihr (Symbol.closes_of_operator? hop) hlex hbefore hrest

/-! ## Whole formulas -/

/-- The scanner finds the references of the expression in a tidy formula. -/
theorem scannedFrom_of_parseFormula {formula : String} {e : Expr}
    (hparse : parseFormula formula = .ok e) (htidy : IsTidy formula) :
    scannedFrom none none formula.toList = e.references.filterMap Expr.reference? := by
  obtain ⟨rest, hlex, hblank⟩ := tidyLexes_tokensOf htidy
  unfold parseFormula tokenize at hparse
  rw [parseTokens_eq_ok_iff] at hparse
  have hrest : Ends rest := by
    rw [Ends, trimStartChars, hblank]
    simp [Closes]
  have hnothing : Apart none := by simp [Apart]
  have hend : scannedFrom none none rest = [] := by
    obtain ⟨blanks, htext, hblanks, -⟩ := exists_blanks rest
    rw [hblank] at htext
    obtain ⟨last, -, hscanned⟩ := scannedFrom_blanks hblanks hnothing
    rw [htext, hscanned]
    simp [scannedFrom]
  have hscans : Scans none formula.toList rest e := by
    generalize tokensOf formula.toList = ts at hlex hparse
    by_cases hequals : ∃ us, ts = .symbol .equals :: us
    · obtain ⟨us, rfl⟩ := hequals
      exact (hparse.scansAs.behind_symbol (by decide)) hlex hnothing hrest
    · have hdrop : dropEquals ts = ts := by
        unfold dropEquals
        split
        · exact absurd ⟨_, rfl⟩ hequals
        · rfl
      rw [hdrop] at hparse
      exact hparse.scansAs hlex hnothing hrest
  rw [hscans, hend, List.append_nil]

theorem IsPlain.scannedFrom_eq {formula : String} {e : Expr} (h : IsPlain formula e) :
    scannedFrom none none formula.toList = e.references.filterMap Expr.reference? :=
  scannedFrom_of_parseFormula h.parses (isTidy_of_plain h.isBlank h.isLower)

/-- The scanner and the parser see the same references in a tidy formula that parses: the cells and
ranges of the expression in the order of its text, with the same columns, rows and dollar signs, and
known as references to a sheet exactly if the expression names one. -/
theorem referencesOf_eq_of_isTidy {formula : String} {e : Expr} (hparse : parseFormula formula = .ok e)
    (htidy : IsTidy formula) :
    referencesOf formula = e.references.filterMap Expr.reference? :=
  (referencesOf_eq_scannedFrom formula).trans (scannedFrom_of_parseFormula hparse htidy)

/-- The names of functions and sheets may be in small letters, and blanks may stand between operands. -/
theorem referencesOf_eq_of_isTidy_total :
    ∃ e, parseFormula "=sum($A$1:B2, 'My sheet'!C3) + Sheet1!D4" = .ok e ∧
      IsTidy "=sum($A$1:B2, 'My sheet'!C3) + Sheet1!D4" ∧
      referencesOf "=sum($A$1:B2, 'My sheet'!C3) + Sheet1!D4" =
        e.references.filterMap Expr.reference? := by
  have htokens : tokenize "=sum($A$1:B2, 'My sheet'!C3) + Sheet1!D4" = [.symbol .equals,
      .name "SUM", .symbol .openParen, .name "$A$1", .symbol .colon, .name "B2", .symbol .comma,
      .quotedName "My sheet", .symbol .exclamation, .name "C3", .symbol .closeParen, .symbol .plus,
      .name "SHEET1", .symbol .exclamation, .name "D4"] := by cbv
  have hrange : Derives (.chain .comparison) [.name "$A$1", .symbol .colon, .name "B2"]
      (.range none ⟨"A", 1, true, true⟩ ⟨"B", 2, false, false⟩) :=
    .of_primary (.reference .none (.range rfl rfl))
  have hcell : Derives (.chain .comparison)
      [.quotedName "My sheet", .symbol .exclamation, .name "C3"]
      (.cell (some "My sheet") ⟨"C", 3, false, false⟩) :=
    .of_primary (.reference (.quoted "My sheet") (.cell rfl))
  have hcall : Derives (.chain .sum) _ _ :=
    .of_primary (.call "SUM" [([.name "$A$1", .symbol .colon, .name "B2"], _),
      ([.quotedName "My sheet", .symbol .exclamation, .name "C3"], _)]
      (List.forall_mem_cons.2 ⟨hrange, List.forall_mem_singleton.2 hcell⟩))
  have hother : Derives (.chain .product) [.name "SHEET1", .symbol .exclamation, .name "D4"]
      (.cell (some "SHEET1") ⟨"D", 4, false, false⟩) :=
    .of_primary (.reference (.name "SHEET1") (.cell rfl))
  have hplus : Level.sum.operator? .plus = some .add := rfl
  have hsum : Derives (.chain .sum) _ _ := .chain hplus hcall hother
  obtain ⟨e, hparse⟩ : ∃ e, parseFormula "=sum($A$1:B2, 'My sheet'!C3) + Sheet1!D4" = .ok e := by
    rw [parseFormula, htokens]
    exact ⟨_, parseTokens_eq_ok_iff.2 (.operand (.operand hsum))⟩
  have htidy : IsTidy "=sum($A$1:B2, 'My sheet'!C3) + Sheet1!D4" := by decide +kernel
  exact ⟨e, hparse, htidy, referencesOf_eq_of_isTidy hparse htidy⟩

/-- The parser reads `a1` as a cell, and the scanner does not find it. -/
theorem referencesOf_small_letters :
    ∃ e, parseFormula "=a1+B2" = .ok e ∧
      e.references.filterMap Expr.reference? =
        [⟨⟨"A", 1, false, false⟩, none, false⟩, ⟨⟨"B", 2, false, false⟩, none, false⟩] ∧
      referencesOf "=a1+B2" = [⟨⟨"B", 2, false, false⟩, none, false⟩] := by
  have htokens : tokenize "=a1+B2" =
      [.symbol .equals, .name "A1", .symbol .plus, .name "B2"] := by cbv
  have hleft : Derives (.chain .sum) [.name "A1"] (.cell none ⟨"A", 1, false, false⟩) :=
    .of_primary (.reference .none (.cell rfl))
  have hright : Derives (.chain .product) [.name "B2"] (.cell none ⟨"B", 2, false, false⟩) :=
    .of_primary (.reference .none (.cell rfl))
  have hplus : Level.sum.operator? .plus = some .add := rfl
  refine ⟨.binary .add (.cell none ⟨"A", 1, false, false⟩) (.cell none ⟨"B", 2, false, false⟩), ?_,
    rfl, by decide +kernel⟩
  rw [parseFormula, htokens, parseTokens_eq_ok_iff]
  exact .operand (.operand (.chain hplus hleft hright))

end SheetPress
