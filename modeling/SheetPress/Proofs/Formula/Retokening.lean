import Mathlib
import SheetPress.Proofs.Formula.Foreign

/-!
# The tokens of an edited text

A reference that stands for itself is cut into tokens of its own, wherever it stands: no token in front
of it reaches into it, and none of its own reaches behind it.  So an edit changes the tokens of its
references and no others, in any text, whether it is a formula or not.

* `tokensOf_append` — the tokens of a text in two parts, where the second begins like a corner.
* `piecesFrom_eq_or_exists` — the first reference of a text with what stands around it.
* `retokens_editedFrom` — the tokens of a text before and after an edit.
-/

namespace SheetPress

/-! ## Texts in two parts -/

section Parts

variable {p : Char → Bool} {front back : List Char}

theorem span_append_of_head (hback : ∀ c ∈ back.head?, p c = false) (front : List Char) :
    (front ++ back).takeWhile p = front.takeWhile p ∧
      (front ++ back).dropWhile p = front.dropWhile p ++ back := by
  induction front with
  | nil =>
    have hnil : ∀ c ∈ ([] : List Char), p c = true := by simp
    exact takeWhile_append_of_head hnil hback
  | cons c front ih => cases hc : p c <;> simp [hc, ih]

theorem takeWhile_append_of_dropWhile (h : front.dropWhile p ≠ []) :
    (front ++ back).takeWhile p = front.takeWhile p := by
  rw [List.takeWhile_append, if_neg]
  intro hlen
  have := congrArg List.length (List.takeWhile_append_dropWhile (p := p) (l := front))
  rw [List.length_append, hlen] at this
  exact h (List.length_eq_zero_iff.1 (by omega))

theorem dropWhile_append_of_dropWhile (h : front.dropWhile p ≠ []) :
    (front ++ back).dropWhile p = front.dropWhile p ++ back := by
  rw [List.dropWhile_append, if_neg (by simpa using h)]

/-- A text that begins as a corner does. -/
def BeginsCorner (text : List Char) : Prop := ∀ c ∈ text.head?, beginsCorner c = true

theorem of_beginsCorner {c : Char} (h : beginsCorner c = true) :
    isAsciiDigit c = false ∧ isQuote c = false ∧ c ≠ '.' ∧ c ≠ '+' ∧ c ≠ '-' ∧ c ≠ '=' ∧ c ≠ '>' := by
  have hne : ∀ {d : Char}, beginsCorner d = false → c ≠ d := by
    rintro d hd rfl
    rw [h] at hd
    cases hd
  refine ⟨?_, ?_, hne (by decide), hne (by decide), hne (by decide), hne (by decide),
    hne (by decide)⟩
  · by_contra hdigit
    rw [Bool.not_eq_false] at hdigit
    rw [(beginsCorner_eq_false_of_digit hdigit).1] at h
    cases h
  · by_contra hquote
    rw [Bool.not_eq_false] at hquote
    rw [beginsCorner_eq_false_of_isQuote hquote] at h
    cases h

theorem signSpan_cons (c : Char) (rest : List Char) :
    signSpan (c :: rest) = if c = '+' ∨ c = '-' then ([c], rest) else ([], c :: rest) := by
  unfold signSpan
  split <;> simp_all

theorem fractionSpan_cons (c : Char) (rest : List Char) :
    fractionSpan (c :: rest) =
      if c = '.' then (c :: rest.takeWhile isAsciiDigit, rest.dropWhile isAsciiDigit)
      else ([], c :: rest) := by
  unfold fractionSpan
  split <;> simp_all

variable (hback : BeginsCorner back)

include hback

theorem BeginsCorner.isAsciiDigit_eq_false : ∀ c ∈ back.head?, isAsciiDigit c = false :=
  fun c hc => (of_beginsCorner (hback c hc)).1

theorem signSpan_append_back (front : List Char) :
    signSpan (front ++ back) = ((signSpan front).1, (signSpan front).2 ++ back) := by
  cases front with
  | nil =>
    cases back with
    | nil => rfl
    | cons c back =>
      have := of_beginsCorner (hback c rfl)
      rw [List.nil_append, signSpan_cons, if_neg (by simp [this])]
      rfl
  | cons c front =>
    rw [List.cons_append, signSpan_cons, signSpan_cons]
    split <;> rfl

theorem fractionSpan_append_back (front : List Char) :
    fractionSpan (front ++ back) = ((fractionSpan front).1, (fractionSpan front).2 ++ back) := by
  cases front with
  | nil =>
    cases back with
    | nil => rfl
    | cons c back =>
      have := of_beginsCorner (hback c rfl)
      rw [List.nil_append, fractionSpan_cons, if_neg this.2.2.1]
      rfl
  | cons c front =>
    obtain ⟨htake, hdrop⟩ := span_append_of_head hback.isAsciiDigit_eq_false front
    rw [List.cons_append, fractionSpan_cons, fractionSpan_cons, htake, hdrop]
    split <;> rfl

theorem exponentSpan_append_back (hfront : front ≠ []) :
    exponentSpan (front ++ back) = ((exponentSpan front).1, (exponentSpan front).2 ++ back) := by
  cases front with
  | nil => exact absurd rfl hfront
  | cons mark rest =>
    obtain ⟨htake, hdrop⟩ := span_append_of_head hback.isAsciiDigit_eq_false (signSpan rest).2
    simp only [List.cons_append, exponentSpan, signSpan_append_back hback, htake, hdrop]
    split <;> rfl

/-- A numeral ends in the front of a text if the front does not end in a character of a name. -/
theorem numeralSpan_append_back (hfront : front ≠ [])
    (hlast : ∀ c ∈ front.getLast?, continuesName c = false) :
    numeralSpan (front ++ back) = ((numeralSpan front).1, (numeralSpan front).2 ++ back) := by
  obtain ⟨htake, hdrop⟩ := span_append_of_head hback.isAsciiDigit_eq_false front
  -- digits and a fraction do not reach the end of the front
  have hmark : (fractionSpan (front.dropWhile isAsciiDigit)).2 ≠ [] := by
    intro hnil
    obtain ⟨c, hc⟩ := Option.ne_none_iff_exists'.1 (mt List.getLast?_eq_none_iff.1 hfront)
    have hname : continuesName c = true := by
      have hwhole := List.takeWhile_append_dropWhile (p := isAsciiDigit) (l := front)
      have hspan := fractionSpan_append (front.dropWhile isAsciiDigit)
      rw [hnil, List.append_nil] at hspan
      rw [← hspan] at hwhole
      have hmem := List.mem_of_getLast? hc
      rw [← hwhole] at hmem
      rcases List.mem_append.1 hmem with hmem | hmem
      · simp [continuesName, List.mem_takeWhile_imp hmem]
      · rcases fractionSpan_fst (front.dropWhile isAsciiDigit) with hempty | ⟨digits, hdigits, heq⟩
        · rw [hempty] at hmem
          cases hmem
        · rw [heq] at hmem
          rcases List.mem_cons.1 hmem with rfl | hmem
          · decide
          · simp [continuesName, hdigits c hmem]
    rw [hlast c hc] at hname
    cases hname
  simp only [numeralSpan, htake, hdrop, fractionSpan_append_back hback,
    exponentSpan_append_back hback hmark]

end Parts

/-! ## Quotes -/

/-- Behind a text that begins outside of quotes, no quote is open. -/
def IsClosed (text : List Char) : Prop := text.foldl openQuote none = none

theorem IsClosed.of_append {run text : List Char} (h : IsClosed (run ++ text))
    (hrun : ∀ c ∈ run, isQuote c = false) : IsClosed text := by
  rwa [IsClosed, List.foldl_append, foldl_openQuote_of_plain (by simp) hrun] at h

theorem openQuote_self (quote : Char) : openQuote (some quote) quote = none := by
  simp [openQuote]

/-- A quoted text that is closed in the front of a text ends there. -/
theorem quotedBody_append_back {quote : Char} (hq : isQuote quote = true) {front : List Char}
    (hclosed : front.foldl openQuote (some quote) = none) {back : List Char}
    (hback : ∀ c ∈ back.head?, c ≠ quote) :
    quotedBody quote (front ++ back) =
        ((quotedBody quote front).1, (quotedBody quote front).2 ++ back) ∧
      IsClosed (quotedBody quote front).2 := by
  fun_induction quotedBody quote front with
  | case1 => cases hclosed
  | case2 =>
    refine ⟨?_, rfl⟩
    cases back with
    | nil => simp [quotedBody]
    | cons d back => simp [quotedBody, hback d rfl]
  | case3 c hc => simp [openQuote, hc] at hclosed
  | case4 rest body behind hbody ih =>
    have hagain : openQuote none quote = some quote := by rw [openQuote_none, if_pos hq]
    have hrest : rest.foldl openQuote (some quote) = none := by
      rwa [List.foldl_cons, List.foldl_cons, openQuote_self, hagain] at hclosed
    obtain ⟨happ, hend⟩ := ih hrest
    rw [hbody] at happ hend
    simp only [List.cons_append, quotedBody, if_true, happ]
    exact ⟨trivial, hend⟩
  | case5 d rest hd =>
    rw [List.foldl_cons, openQuote_self] at hclosed
    exact ⟨by simp [quotedBody, hd], hclosed⟩
  | case6 c d rest hc body behind hbody ih =>
    have hrest : (d :: rest).foldl openQuote (some quote) = none := by
      simpa [openQuote, hc] using hclosed
    obtain ⟨happ, hend⟩ := ih hrest
    rw [hbody] at happ hend
    simp only [List.cons_append] at happ
    simp only [List.cons_append, quotedBody, if_neg hc, happ]
    exact ⟨trivial, hend⟩

/-! ## Tokens -/

section Tokens

variable {c : Char} {more front back : List Char}

theorem nextToken_apostrophe (rest : List Char) :
    nextToken '\'' rest =
      (.quotedName (String.ofList (quotedBody '\'' rest).1), (quotedBody '\'' rest).2) := rfl

theorem symbolSpan?_less (d : Char) (rest : List Char) :
    symbolSpan? '<' (d :: rest) =
      if d = '=' then some (.lessEqual, rest)
      else if d = '>' then some (.notEqual, rest) else some (.less, d :: rest) := by
  simp only [symbolSpan?]
  split <;> simp_all

theorem symbolSpan?_greater (d : Char) (rest : List Char) :
    symbolSpan? '>' (d :: rest) =
      if d = '=' then some (.greaterEqual, rest) else some (.greater, d :: rest) := by
  simp only [symbolSpan?]
  split <;> simp_all

theorem symbolSpan?_append_back (hback : BeginsCorner back) (c : Char) (more : List Char) :
    symbolSpan? c (more ++ back) = (symbolSpan? c more).map fun r => (r.1, r.2 ++ back) := by
  by_cases hc : c = '<' ∨ c = '>'
  · -- the only symbols that take in another character
    cases more with
    | nil =>
      cases back with
      | nil => rcases hc with rfl | rfl <;> rfl
      | cons d back =>
        have := of_beginsCorner (hback d rfl)
        rcases hc with rfl | rfl
        · rw [List.nil_append, symbolSpan?_less, if_neg this.2.2.2.2.2.1, if_neg this.2.2.2.2.2.2]
          rfl
        · rw [List.nil_append, symbolSpan?_greater, if_neg this.2.2.2.2.2.1]
          rfl
    | cons d more =>
      rcases hc with rfl | rfl <;>
        simp only [List.cons_append, symbolSpan?_less, symbolSpan?_greater] <;> split_ifs <;> rfl
  · unfold symbolSpan?
    split <;> first | rfl | simp at hc

theorem exists_append_nextToken {t : Token} {behind : List Char}
    (ht : nextToken c more = (t, behind)) : ∃ run, c :: more = run ++ behind := by
  have hquoted : ∀ (quote : Char) (text : List Char),
      ∃ run, quote :: text = run ++ (quotedBody quote text).2 := by
    intro quote text
    obtain ⟨run, htext, -⟩ := quotedBody_congr (rfl : quotedBody quote text = _)
    exact ⟨quote :: run, congrArg (quote :: ·) htext⟩
  cases firstToken_nextToken ht with
  | symbol symbol ht htext => exact ⟨_, htext⟩
  | text text ht htext hbehind => exact htext ▸ hbehind ▸ hquoted '"' text
  | quotedName text ht htext hbehind => exact htext ▸ hbehind ▸ hquoted '\'' text
  | number numeral x ht htext => exact ⟨_, htext⟩
  | name name ht htext => exact ⟨_, htext⟩
  | illegal d run ht htext => exact ⟨_, htext⟩

theorem mem_getLast?_append (run : List Char) {text : List Char} :
    ∀ d ∈ text.getLast?, d ∈ (run ++ text).getLast? := by
  intro d hd
  rw [List.getLast?_append, hd]
  rfl

theorem isClosed_nextToken {t : Token} {behind : List Char} (ht : nextToken c more = (t, behind))
    (h : IsClosed (c :: more)) : IsClosed behind := by
  have hquoted : ∀ {quote : Char} {text : List Char}, isQuote quote = true →
      IsClosed (quote :: text) → IsClosed (quotedBody quote text).2 := by
    intro quote text hq hclosed
    rw [IsClosed, List.foldl_cons, openQuote_none, if_pos hq] at hclosed
    have hnil : ∀ c ∈ ([] : List Char).head?, c ≠ quote := by simp
    exact (quotedBody_append_back hq hclosed hnil).2
  cases firstToken_nextToken ht with
  | symbol symbol ht htext =>
    rw [htext] at h
    exact h.of_append symbol.isQuote_eq_false
  | text text ht htext hbehind =>
    rw [htext] at h
    rw [hbehind]
    exact hquoted (by decide) h
  | quotedName text ht htext hbehind =>
    rw [htext] at h
    rw [hbehind]
    exact hquoted (by decide) h
  | number numeral x ht htext hnumeral hread hstart =>
    rw [htext] at h
    exact h.of_append fun d hd => isQuote_of_mem_numeral hnumeral hd
  | name name ht htext hname =>
    rw [htext] at h
    exact h.of_append fun d hd => isQuote_eq_false_of_continuesName (hname.continues d hd)
  | illegal d run ht htext hrun =>
    rw [htext] at h
    exact h.of_append hrun

/-- A text that ends with a character that no name goes on with has such a character in it. -/
theorem dropWhile_continuesName_ne_nil (hlast : ∀ d ∈ (c :: more).getLast?, continuesName d = false)
    (hc : continuesName c = true) : more.dropWhile continuesName ≠ [] := by
  intro hnil
  rw [List.dropWhile_eq_nil_iff] at hnil
  obtain ⟨d, hd⟩ := Option.ne_none_iff_exists'.1
    (mt List.getLast?_eq_none_iff.1 (List.cons_ne_nil c more))
  have hall : continuesName d = true := by
    rcases List.mem_cons.1 (List.mem_of_getLast? hd) with rfl | hmem
    · exact hc
    · exact hnil d hmem
  rw [hlast d hd] at hall
  cases hall

/-- Whether a text begins with a name is seen in its front. -/
theorem beginsName_append (hlast : ∀ d ∈ (c :: more).getLast?, continuesName d = false)
    (back : List Char) : beginsName c (more ++ back) = beginsName c more := by
  cases more with
  | nil =>
    have hdollar : c ≠ '$' := by
      rintro rfl
      exact dropWhile_continuesName_ne_nil hlast (by decide) rfl
    simp [beginsName, hdollar]
  | cons d more => rfl

/-- The first token of a text in two parts is that of the front. -/
theorem nextToken_append_back (hclosed : IsClosed (c :: more))
    (hlast : ∀ d ∈ (c :: more).getLast?, continuesName d = false) (hback : BeginsCorner back) :
    nextToken c (more ++ back) = ((nextToken c more).1, (nextToken c more).2 ++ back) := by
  have hquoted : isQuote c = true → quotedBody c (more ++ back) =
      ((quotedBody c more).1, (quotedBody c more).2 ++ back) := by
    intro hq
    rw [IsClosed, List.foldl_cons, openQuote_none, if_pos hq] at hclosed
    refine (quotedBody_append_back hq hclosed ?_).1
    rintro d hd rfl
    rw [(of_beginsCorner (hback d hd)).2.1] at hq
    cases hq
  have hbegins := beginsName_append hlast back
  have hspan := symbolSpan?_append_back hback c more
  cases hsymbol : symbolSpan? c more with
  | some r =>
    rw [hsymbol] at hspan
    simp only [nextToken, hsymbol, hspan, Option.map_some]
  | none =>
    rw [hsymbol] at hspan
    by_cases hdouble : c = '"'
    · subst hdouble
      rw [nextToken_quote, nextToken_quote, hquoted (by decide)]
    · by_cases hsingle : c = '\''
      · subst hsingle
        rw [nextToken_apostrophe, nextToken_apostrophe, hquoted (by decide)]
      · by_cases hdigit : (isAsciiDigit c || c = '.') = true
        · have hnumeral := numeralSpan_append_back hback (List.cons_ne_nil c more) hlast
          rw [nextToken_digit _ hdigit, nextToken_digit _ hdigit, ← List.cons_append, hnumeral]
        · by_cases hbegin : beginsName c more = true
          · have hne := dropWhile_continuesName_ne_nil hlast (continuesName_of_beginsName hbegin)
            rw [nextToken_name hbegin, nextToken_name (hbegins.trans hbegin),
              takeWhile_append_of_dropWhile hne, dropWhile_append_of_dropWhile hne]
          · have hbegin' : ¬ beginsName c (more ++ back) = true := hbegins ▸ hbegin
            unfold beginsName at hbegin hbegin'
            simp only [nextToken, hsymbol, hspan, Option.map_none, if_neg hdouble, if_neg hsingle,
              if_neg hdigit, if_neg hbegin, if_neg hbegin']

theorem tokensOf_blank_cons (hc : isBlank c = true) (more : List Char) :
    tokensOf (c :: more) = tokensOf more := by
  have hdrop : (c :: more).dropWhile isBlank = more.dropWhile isBlank :=
    List.dropWhile_cons_of_pos hc
  cases hmore : more.dropWhile isBlank with
  | nil => rw [tokensOf_of_blank hmore, tokensOf_of_blank (hdrop.trans hmore)]
  | cons d rest => rw [tokensOf_of_dropWhile hmore, tokensOf_of_dropWhile (hdrop.trans hmore)]

/-- The tokens of a text in two parts: the front ends outside of quotes with a character that no name
goes on with, and the back begins like a corner. -/
theorem tokensOf_append (hclosed : IsClosed front)
    (hlast : ∀ c ∈ front.getLast?, continuesName c = false) (hback : BeginsCorner back) :
    tokensOf (front ++ back) = tokensOf front ++ tokensOf back := by
  induction hn : front.length using Nat.strong_induction_on generalizing front with
  | _ n ih =>
    cases front with
    | nil =>
      rw [tokensOf_nil]
      rfl
    | cons c more =>
      cases hblank : isBlank c with
      | true =>
        have hplain : ∀ d ∈ [c], isQuote d = false := by
          simpa using (of_isBlank hblank).2.2.2.1
        rw [List.cons_append, tokensOf_blank_cons hblank, tokensOf_blank_cons hblank]
        exact ih more.length (by simp [← hn]) (IsClosed.of_append hclosed hplain)
          (fun d hd => hlast d (mem_getLast?_append [c] d hd)) rfl
      | false =>
        have hlen := nextToken_length_le c more
        have hnext := nextToken_append_back hclosed hlast hback
        rw [List.cons_append, tokensOf_cons _ hblank, tokensOf_cons _ hblank, hnext]
        cases hfirst : nextToken c more with
        | mk t behind =>
          rw [hfirst] at hlen
          obtain ⟨run, hrun⟩ := exists_append_nextToken hfirst
          dsimp only
          rw [ih behind.length (by rw [← hn]; exact Nat.lt_succ_of_le hlen)
            (isClosed_nextToken hfirst hclosed) (fun d hd => hlast d ?_) rfl]
          · rfl
          · rw [hrun]
            exact mem_getLast?_append run d hd

end Tokens

/-! ## The first reference of a text -/

/-- A text up to its first reference, the reference in its spelling, and the text behind it. -/
structure FirstReference (opened before : Option Char) (text front : List Char)
    (source : ReferenceText) (ref : Reference) (behind : List Char) : Prop where
  text_eq : text = front ++ (source.chars ++ behind)
  closed : front.foldl openQuote opened = none
  alone : standsAlone (front.getLast?.or before) behind.head? = true
  spelled : source.Spelled
  read : source.reference? ref.qualified = some ref
  pieces : piecesFrom opened before text =
    front.map .char ++ .reference source ref :: piecesFrom none source.chars.getLast? behind

/-- A text holds no reference, or it has a first one. -/
theorem piecesFrom_eq_or_exists {opened before : Option Char} {text : List Char}
    (hopened : ∀ q ∈ opened, isQuote q = true) :
    piecesFrom opened before text = text.map .char ∨
      ∃ front source ref behind, FirstReference opened before text front source ref behind := by
  fun_induction piecesFrom opened before text with
  | case1 => exact .inl rfl
  | case2 opened before c rest found behind hsplit _ ih =>
    have happ := ReferenceText.chars_split? hsplit
    have hspelled := (ReferenceText.spelled_of_split? hsplit).1
    rcases found.pieces_eq opened before behind.head? with hpieces | ⟨ref, href, halone, hpieces⟩
    · rw [hpieces]
      rcases ih hopened with hnone | ⟨front, source, ref, behind', hfirst⟩
      · exact .inl (by rw [hnone, ← List.map_append, happ])
      · refine .inr ⟨found.chars ++ front, source, ref, behind', ?_, ?_, ?_, hfirst.spelled,
          hfirst.read, ?_⟩
        · rw [List.append_assoc, ← hfirst.text_eq, happ]
        · rw [List.foldl_append, foldl_openQuote_of_plain hopened hspelled.isQuote_eq_false,
            hfirst.closed]
        · obtain ⟨d, hd, -⟩ := hspelled.getLast?_chars
          rw [List.getLast?_append, Option.or_assoc, hd]
          have := hfirst.alone
          rwa [hd] at this
        · rw [piecesFrom_split hsplit, hpieces, hfirst.pieces, List.map_append, List.append_assoc]
    · rw [Bool.and_eq_true] at halone
      obtain rfl : opened = none := Option.isNone_iff_eq_none.1 halone.1
      refine .inr ⟨[], found, ref, behind, happ.symm, rfl, halone.2, hspelled, ?_, ?_⟩
      · rwa [ReferenceText.qualified_of_reference? href]
      · rw [piecesFrom_split hsplit, hpieces]
        rfl
  | case3 opened before c rest hsplit ih =>
    rcases ih (isQuote_of_openQuote hopened c) with hnone | ⟨front, source, ref, behind, hfirst⟩
    · exact .inl (by rw [hnone, List.map_cons])
    · refine .inr ⟨c :: front, source, ref, behind, ?_, hfirst.closed, ?_, hfirst.spelled,
        hfirst.read, ?_⟩
      · rw [List.cons_append, ← hfirst.text_eq]
      · have := hfirst.alone
        cases front with
        | nil => exact this
        | cons d front => exact this
      · rw [piecesFrom_char hsplit, hfirst.pieces]
        rfl

/-! ## The tokens of a reference -/

namespace ReferenceText

/-- A reference all of whose corners are read by the parser. -/
def Proper (source : ReferenceText) : Prop :=
  source.first.Proper ∧ ∀ last ∈ source.last, last.Proper

/-- The tokens of a reference. -/
def tokens (source : ReferenceText) : List Token :=
  .name (String.ofList source.first.chars) ::
    match source.last with
    | some last => [.symbol .colon, .name (String.ofList last.chars)]
    | none => []

theorem Proper.spelled {source : ReferenceText} (h : source.Proper) : source.Spelled :=
  ⟨h.1.spelled, fun last hlast => (h.2 last hlast).spelled⟩

theorem Proper.chars_ne_nil {source : ReferenceText} (h : source.Proper) : source.chars ≠ [] := by
  obtain ⟨first, last⟩ := source
  cases last <;> simp [chars, h.1.chars_ne_nil]

/-- A reference has tokens of its own in front of a text that does not continue a name. -/
theorem Proper.tokensOf_append {source : ReferenceText} (h : source.Proper) {rest : List Char}
    (hrest : ∀ c ∈ rest.head?, continuesName c = false) :
    tokensOf (source.chars ++ rest) = source.tokens ++ tokensOf rest := by
  obtain ⟨first, last⟩ := source
  cases last with
  | none => exact (h.1.lexes hrest).tokensOf_append
  | some last =>
    have hlex := lexes_range (h.1.lexes (ends_name_colon _)) ((h.2 last rfl).lexes hrest)
    exact hlex.tokensOf_append

theorem Spelled.beginsCorner {source : ReferenceText} (h : source.Spelled) (rest : List Char) :
    BeginsCorner (source.chars ++ rest) := by
  obtain ⟨⟨fixed, letters, rowFixed, digits⟩, last⟩ := source
  obtain ⟨l, letters', rfl⟩ := List.exists_cons_of_ne_nil h.1.letters_ne_nil
  have hl : l.isUpper = true := h.1.isUpper l (List.mem_cons_self ..)
  intro c hc
  cases fixed <;> cases last <;>
    · simp only [chars, CornerText.chars, dollar, List.cons_append, List.nil_append, List.head?_cons,
        Option.mem_def, Option.some.injEq, if_true, Bool.false_eq_true, if_false] at hc
      subst hc
      simp [SheetPress.beginsCorner, hl]

/-- Digits of other scripts are foreign to formulas, so that references without them are proper. -/
theorem Spelled.proper {source : ReferenceText} (h : source.Spelled)
    (hforeign : ∀ c ∈ source.chars, isForeign c = false) : source.Proper := by
  obtain ⟨first, last⟩ := source
  have hcorner : ∀ corner : CornerText, corner.Spelled →
      (∀ c ∈ corner.digits, isForeign c = false) → corner.Proper := fun corner hspelled hdigits =>
    ⟨hspelled.letters_ne_nil, hspelled.isUpper, hspelled.digits_ne_nil, fun c hc =>
      isAsciiDigit_of_isForeign_eq_false (hdigits c hc) (hspelled.isDecimalDigit c hc)⟩
  cases last with
  | none =>
    exact ⟨hcorner _ h.1 fun c hc => hforeign c (List.mem_append_right _ hc), by simp⟩
  | some last =>
    refine ⟨hcorner _ h.1 fun c hc => hforeign c ?_, fun last' hlast => ?_⟩
    · exact List.mem_append_left _ (List.mem_append_right _ hc)
    · obtain rfl : last = last' := by simpa using hlast
      refine hcorner _ (h.2 _ rfl) fun c hc => hforeign c ?_
      exact List.mem_append_right _ (List.mem_cons_of_mem _ (List.mem_append_right _ hc))

end ReferenceText

/-- The name of a corner is not that of a column: it has digits. -/
theorem CornerText.Proper.columnRef?_eq_none {corner : CornerText} (h : corner.Proper) :
    columnRef? (String.ofList corner.chars) = none := by
  rw [← Option.not_isSome_iff_eq_none, Option.isSome_iff_exists]
  rintro ⟨ref, href⟩
  obtain ⟨d, digits, hcons⟩ := List.exists_cons_of_ne_nil h.digits_ne_nil
  have hdigit : SheetPress.isAsciiDigit d = true := h.isAsciiDigit d (hcons ▸ List.mem_cons_self ..)
  have hmem : d ∈ corner.chars := by
    rw [CornerText.chars, hcons]
    simp
  generalize hname : String.ofList corner.chars = name at href
  cases columnRef?_eq_some_iff.1 href with
  | @intro fixed letters hletters hletter =>
    rw [String.ofList_inj.1 hname, List.mem_append] at hmem
    rcases hmem with hmem | hmem
    · cases fixed
      · cases hmem
      · obtain rfl := List.mem_singleton.1 hmem
        cases hdigit
    · rw [isAsciiDigit_eq_false_of_letter (hletter d hmem)] at hdigit
      cases hdigit

/-! ## Tokens before and after an edit -/

/-- The tokens of two texts that differ in references only.  No name of a reference is the name of a
column.  A reference whose second corner names no cell may lose that corner. -/
inductive Retokens : List Token → List Token → Prop
  | nil : Retokens [] []
  | same (t : Token) {ts ts' : List Token} (h : Retokens ts ts') : Retokens (t :: ts) (t :: ts')
  | name {s s' : String} (hs : columnRef? s = none) (hs' : columnRef? s' = none)
      {ts ts' : List Token} (h : Retokens ts ts') : Retokens (.name s :: ts) (.name s' :: ts')
  | first {s last s' : String} (hs : columnRef? s = none) (hlast : columnRef? last = none)
      (hs' : columnRef? s' = none) {ts ts' : List Token} (h : Retokens ts ts') :
      Retokens (.name s :: .symbol .colon :: .name last :: ts) (.name s' :: ts')

namespace Retokens

variable {ts ts' : List Token}

theorem refl (ts : List Token) : Retokens ts ts := by
  induction ts with
  | nil => exact .nil
  | cons t ts ih => exact .same t ih

theorem append_left (h : Retokens ts ts') (front : List Token) :
    Retokens (front ++ ts) (front ++ ts') := by
  induction front with
  | nil => exact h
  | cons t front ih => exact .same t ih

/-- A reference in the place of another one that has a second corner if it has one. -/
theorem reference {source source' : ReferenceText} (hproper : source.Proper)
    (hproper' : source'.Proper) (hlast : source.last = none → source'.last = none)
    (h : Retokens ts ts') : Retokens (source.tokens ++ ts) (source'.tokens ++ ts') := by
  obtain ⟨first, last⟩ := source
  obtain ⟨first', last'⟩ := source'
  have hfirst := hproper.1.columnRef?_eq_none
  have hfirst' := hproper'.1.columnRef?_eq_none
  cases last with
  | none =>
    obtain rfl : last' = none := hlast rfl
    exact .name hfirst hfirst' h
  | some last =>
    have hcorner := (hproper.2 last rfl).columnRef?_eq_none
    cases last' with
    | none => exact .first hfirst hcorner hfirst' h
    | some last' =>
      have hcorner' := (hproper'.2 last' rfl).columnRef?_eq_none
      exact .name hfirst hfirst' (.same _ (.name hcorner hcorner' h))

end Retokens

/-- An edit of references writes other references, without a second corner where there was none, or
the reference error. -/
def WritesReferences (f : Reference → Option String) : Prop :=
  ∀ ref new, ref.spelling.Proper → f ref = some new → new = referenceErrorText ∨
    ∃ r : Reference, r.spelling.Proper ∧ (ref.last = none → r.last = none) ∧ new = r.text

/-- The spelling of a cell that was read in a spelling with a column. -/
theorem CornerText.Spelled.corner_of_ref? {corner : CornerText} (h : corner.Spelled) {a : CellRef}
    (ha : corner.ref? = some a) : a.corner.Proper := by
  obtain ⟨row, -, rfl⟩ := Option.map_eq_some_iff.1 ha
  refine CellRef.proper_corner ?_ ?_
  · rw [String.toList_ofList]
    exact h.letters_ne_nil
  · rw [String.toList_ofList]
    exact h.isUpper

/-- The spelling of a reference that was read in a spelling with columns. -/
theorem ReferenceText.Spelled.spelling_of_reference? {source : ReferenceText} (h : source.Spelled)
    {qualified : Bool} {ref : Reference} (href : source.reference? qualified = some ref) :
    ref.spelling.Proper := by
  obtain ⟨a, ha, rfl⟩ := Option.map_eq_some_iff.1 href
  refine ⟨h.1.corner_of_ref? ha, fun last hlast => ?_⟩
  obtain ⟨b, hb, rfl⟩ := Option.map_eq_some_iff.1 hlast
  obtain ⟨corner, hcorner, hb⟩ := Option.bind_eq_some_iff.1 hb
  exact (h.2 corner hcorner).corner_of_ref? hb

section Edits

variable {f : Reference → Option String} {before : Option Char} {text : List Char}

theorem continuesName_eq_false_of_not_joins {c : Char} (h : joinsWord c = false) (hc : c ≠ '$') :
    continuesName c = false := by
  rw [← Bool.not_eq_true]
  intro hname
  have := joinsWord_of_continuesName hname
  simp [h, hc] at this

/-- No name goes on at the ends of a reference that stands for itself. -/
theorem continuesName_of_standsAlone {before after : Option Char}
    (h : standsAlone before after = true) :
    (∀ c ∈ before, continuesName c = false) ∧ ∀ c ∈ after, continuesName c = false := by
  simp only [standsAlone, Bool.and_eq_true, Bool.not_eq_true'] at h
  refine ⟨fun c hc => ?_, fun c hc => ?_⟩
  · have hjoins := h.1
    obtain rfl : before = some c := hc
    simp only [Option.any_some, Bool.or_eq_false_iff, decide_eq_false_iff_not] at hjoins
    exact continuesName_eq_false_of_not_joins hjoins.1 hjoins.2
  · have hjoins := h.2
    obtain rfl : after = some c := hc
    simp only [Option.any_some, Bool.or_eq_false_iff, decide_eq_false_iff_not] at hjoins
    exact continuesName_eq_false_of_not_joins hjoins.1.1.1 hjoins.1.2

section First

variable {front behind : List Char} {source : ReferenceText} {ref : Reference}
  (hfirst : FirstReference none before text front source ref behind)

include hfirst

theorem FirstReference.editedFrom_eq (f : Reference → Option String) :
    editedFrom f none before text = front ++ (Piece.edited f (.reference source ref) ++
      editedFrom f none source.chars.getLast? behind) := by
  rw [editedFrom_eq_flatMap, hfirst.pieces, List.flatMap_append, List.flatMap_cons,
    ← editedFrom_eq_flatMap, List.flatMap_map]
  simp [Piece.edited]

/-- What is written in place of a reference, where it is no error: a reference again. -/
theorem FirstReference.exists_edited (hf : WritesReferences f) (hproper : source.Proper)
    (hforeign : ∀ c ∈ outsideQuotes none (editedFrom f none before text), isForeign c = false) :
    ∃ source' : ReferenceText, source'.Proper ∧ (source.last = none → source'.last = none) ∧
      Piece.edited f (.reference source ref) = source'.chars := by
  have hlast : ref.last = source.last.bind CornerText.ref? := by
    obtain ⟨a, -, heq⟩ := Option.map_eq_some_iff.1 hfirst.read
    exact congrArg Reference.last heq.symm
  cases hnew : f ref with
  | none => exact ⟨source, hproper, id, by simp [Piece.edited, hnew]⟩
  | some new =>
    rcases hf ref new (hproper.spelled.spelling_of_reference? hfirst.read) hnew with
      rfl | ⟨r, hr, hrlast, rfl⟩
    · -- the error would be a foreign character outside of quotes
      have hmem : '#' ∈ outsideQuotes none (editedFrom f none before text) := by
        rw [hfirst.editedFrom_eq]
        have hedited : Piece.edited f (.reference source ref) = referenceErrorText.toList := by
          simp [Piece.edited, hnew]
        refine mem_outsideQuotes_append_of_foldl ?_
        rw [hfirst.closed, hedited, outsideQuotes_append _ (forall_mem_of_all (by decide))]
        exact List.mem_append_left _ (by decide)
      exact absurd (hforeign '#' hmem) (by decide +kernel)
    · refine ⟨r.spelling, hr, fun hsource => ?_, by simp [Piece.edited, hnew, r.toList_text]⟩
      have : ref.last = none := by rw [hlast, hsource]; rfl
      rw [Reference.spelling, hrlast this]
      rfl

end First

/-- The tokens of a text before and after an edit, where neither text has a foreign character. -/
theorem retokens_editedFrom (hf : WritesReferences f)
    (hforeign : ∀ c ∈ outsideQuotes none text, isForeign c = false)
    (hforeign' : ∀ c ∈ outsideQuotes none (editedFrom f none before text), isForeign c = false) :
    Retokens (tokensOf text) (tokensOf (editedFrom f none before text)) := by
  induction hn : text.length using Nat.strong_induction_on generalizing text before with
  | _ n ih =>
    rcases @piecesFrom_eq_or_exists none before text (by simp)
      with hnone | ⟨front, source, ref, behind, hfirst⟩
    · have hsame : editedFrom f none before text = text := by
        rw [editedFrom_eq_flatMap, hnone, List.flatMap_map]
        simp [Piece.edited]
      rw [hsame]
      exact .refl _
    · have hedited := hfirst.editedFrom_eq f
      have hfront := continuesName_of_standsAlone hfirst.alone
      have hlast : ∀ c ∈ front.getLast?, continuesName c = false := fun c hc =>
        hfront.1 c (by rw [hc]; rfl)
      -- outside of quotes in the text behind is outside of quotes in the whole
      have hbehind : ∀ {chars rest : List Char} {whole : List Char}, whole = front ++ (chars ++ rest) →
          (∀ c ∈ chars, isQuote c = false) → (∀ c ∈ outsideQuotes none whole, isForeign c = false) →
          (∀ c ∈ chars, isForeign c = false) ∧ ∀ c ∈ outsideQuotes none rest, isForeign c = false := by
        rintro chars rest whole rfl hchars hwhole
        have hin : ∀ c ∈ outsideQuotes none (chars ++ rest), isForeign c = false := fun c hc =>
          hwhole c (mem_outsideQuotes_append_of_foldl (by rwa [hfirst.closed]))
        rw [outsideQuotes_append _ hchars] at hin
        exact ⟨fun c hc => hin c (List.mem_append_left _ hc),
          fun c hc => hin c (List.mem_append_right _ hc)⟩
      obtain ⟨hsource, hrest⟩ :=
        hbehind hfirst.text_eq hfirst.spelled.isQuote_eq_false hforeign
      have hproper := hfirst.spelled.proper hsource
      obtain ⟨source', hproper', hcorner, hnew⟩ := hfirst.exists_edited hf hproper hforeign'
      rw [hnew] at hedited
      obtain ⟨-, hrest'⟩ := hbehind hedited hproper'.spelled.isQuote_eq_false hforeign'
      have hlen : behind.length < n := by
        have := congrArg List.length hfirst.text_eq
        have := List.length_pos_iff.2 hproper.chars_ne_nil
        simp only [List.length_append] at *
        omega
      have hhead : ∀ c ∈ (editedFrom f none source.chars.getLast? behind).head?,
          continuesName c = false := by
        rw [(takeWhile_editedFrom f none (.inl hfirst.spelled.joinsReference)).2]
        exact hfront.2
      rw [hedited, hfirst.text_eq, tokensOf_append hfirst.closed hlast (hfirst.spelled.beginsCorner _),
        tokensOf_append hfirst.closed hlast (hproper'.spelled.beginsCorner _),
        hproper.tokensOf_append hfront.2, hproper'.tokensOf_append hhead]
      exact (Retokens.reference hproper hproper' hcorner
        (ih behind.length hlen hrest hrest' rfl)).append_left _

end Edits

end SheetPress
