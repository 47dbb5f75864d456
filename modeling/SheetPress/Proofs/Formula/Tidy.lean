import Mathlib
import SheetPress.Proofs.Formula.Lexing

/-!
# Tidy formulas

The parser skips blanks between tokens and reads names in either case.  The scanner for references
looks at the characters themselves: it knows a reference by its capitals and by what stands beside
it.  In a tidy formula neither makes a difference: no blank stands beside a colon or an exclamation
mark, none between the name of a function and its parenthesis, and all names but those of functions
and sheets are in capitals.

* `TidyLexes` — a text that is cut into tokens and is tidy, with what lies behind it.
* `tidyLexes_tokensOf` — a tidy text is cut into all of its tokens.
* `isTidy_of_plain` — a text in capitals without blanks is tidy.
-/

namespace SheetPress

/-! ## Tidy texts -/

/-- Whether a token is written tidily, given whether a blank stands in front of it, its word if it is
a name, and the text behind it. -/
def Token.isTidy (token : Token) (spaced : Bool) (word behind : List Char) : Bool :=
  match token with
  | .symbol .colon | .symbol .exclamation => !spaced && !behind.head?.any isBlank
  | .name _ | .boolean _ =>
    match trimStartChars behind with
    | '(' :: _ => behind.head? == some '('
    | '!' :: _ => true
    | _ => word.all (! ·.isLower)
  | _ => true

/-- Whether all tokens of a text are written tidily. -/
def isTidyText (text : List Char) : Bool :=
  match text.dropWhile isBlank, length_dropWhile_le isBlank text with
  | [], _ => true
  | c :: rest, h =>
    have : (nextToken c rest).2.length < text.length :=
      Nat.lt_of_lt_of_le (Nat.lt_succ_of_le (nextToken_length_le c rest)) h
    (nextToken c rest).1.isTidy (text.head?.any isBlank) (c :: rest.takeWhile continuesName)
      (nextToken c rest).2 && isTidyText (nextToken c rest).2
termination_by text.length

/-- A formula without a blank beside a colon or an exclamation mark or in front of the parenthesis of
a call, and without a small letter in a name that is not one of a function or a sheet. -/
def IsTidy (formula : String) : Prop := isTidyText formula.toList = true

instance (formula : String) : Decidable (IsTidy formula) :=
  inferInstanceAs (Decidable (_ = true))

/-- The front of a text is cut into some tokens, all written tidily, with blanks between them; the
rest lies behind them. -/
inductive TidyLexes : List Char → List Token → List Char → Prop
  | nil (text : List Char) : TidyLexes text [] text
  | cons {blanks : List Char} {c : Char} {text behind rest : List Char} {t : Token}
      {ts : List Token} (hblanks : ∀ b ∈ blanks, isBlank b = true) (hc : isBlank c = false)
      (ht : nextToken c text = (t, behind))
      (htidy : t.isTidy (!blanks.isEmpty) (c :: text.takeWhile continuesName) behind = true)
      (h : TidyLexes behind ts rest) : TidyLexes (blanks ++ c :: text) (t :: ts) rest

theorem exists_blanks (text : List Char) :
    ∃ blanks, text = blanks ++ text.dropWhile isBlank ∧ (∀ b ∈ blanks, isBlank b = true) ∧
      (!blanks.isEmpty) = text.head?.any isBlank := by
  refine ⟨text.takeWhile isBlank, List.takeWhile_append_dropWhile.symm,
    fun b hb => List.mem_takeWhile_imp hb, ?_⟩
  cases text with
  | nil => rfl
  | cons c text => cases hc : isBlank c <;> simp [hc]

theorem dropWhile_isBlank_append {blanks : List Char} (hblanks : ∀ b ∈ blanks, isBlank b = true)
    {text : List Char} (htext : ∀ c ∈ text.head?, isBlank c = false) :
    (blanks ++ text).dropWhile isBlank = text :=
  (takeWhile_append_of_head hblanks htext).2

theorem tokensOf_of_dropWhile {text rest : List Char} {c : Char}
    (h : text.dropWhile isBlank = c :: rest) :
    tokensOf text = (nextToken c rest).1 :: tokensOf (nextToken c rest).2 := by
  rw [tokensOf]
  split
  · rename_i heq _
    rw [h] at heq
    cases heq
  · rename_i heq _
    rw [h] at heq
    cases heq
    rfl

/-- Less is left behind the first token. -/
theorem length_nextToken_lt_of_dropWhile {text rest : List Char} {c : Char}
    (h : text.dropWhile isBlank = c :: rest) : (nextToken c rest).2.length < text.length := by
  have hlen := length_dropWhile_le isBlank text
  rw [h, List.length_cons] at hlen
  exact Nat.lt_of_lt_of_le (Nat.lt_succ_of_le (nextToken_length_le c rest)) hlen

theorem tokensOf_of_blank {text : List Char} (h : text.dropWhile isBlank = []) :
    tokensOf text = [] := by
  rw [tokensOf]
  split
  · rfl
  · rename_i heq _
    rw [h] at heq
    cases heq

theorem isTidyText_of_dropWhile {text rest : List Char} {c : Char}
    (h : text.dropWhile isBlank = c :: rest) :
    isTidyText text =
      ((nextToken c rest).1.isTidy (text.head?.any isBlank) (c :: rest.takeWhile continuesName)
        (nextToken c rest).2 && isTidyText (nextToken c rest).2) := by
  rw [isTidyText]
  split
  · rename_i heq _
    rw [h] at heq
    cases heq
  · rename_i heq _
    rw [h] at heq
    cases heq
    rfl

theorem isTidyText_of_blank {text : List Char} (h : text.dropWhile isBlank = []) :
    isTidyText text = true := by
  rw [isTidyText]
  split
  · rfl
  · rename_i heq _
    rw [h] at heq
    cases heq

theorem isBlank_of_dropWhile {text rest : List Char} {c : Char}
    (h : text.dropWhile isBlank = c :: rest) : isBlank c = false :=
  head?_dropWhile text c (by rw [h]; rfl)

/-- A tidy text is cut into all of its tokens; at most blanks lie behind them. -/
theorem tidyLexes_tokensOf {text : List Char} (h : isTidyText text = true) :
    ∃ rest, TidyLexes text (tokensOf text) rest ∧ rest.dropWhile isBlank = [] := by
  induction hn : text.length using Nat.strong_induction_on generalizing text with
  | _ n ih =>
    obtain ⟨blanks, htext, hblanks, hspaced⟩ := exists_blanks text
    cases hdrop : text.dropWhile isBlank with
    | nil =>
      rw [tokensOf_of_blank hdrop]
      exact ⟨text, .nil text, hdrop⟩
    | cons c rest =>
      rw [isTidyText_of_dropWhile hdrop, Bool.and_eq_true] at h
      have hlen : (nextToken c rest).2.length < n := hn ▸ length_nextToken_lt_of_dropWhile hdrop
      obtain ⟨tail, htail, hblank⟩ := ih _ hlen h.2 rfl
      rw [tokensOf_of_dropWhile hdrop]
      refine ⟨tail, ?_, hblank⟩
      have hcons := TidyLexes.cons hblanks (isBlank_of_dropWhile hdrop) rfl (hspaced ▸ h.1) htail
      rw [hdrop] at htext
      rw [htext]
      exact hcons

/-! ## Texts in capitals without blanks -/

theorem trimStartChars_eq {text : List Char} (h : ∀ c ∈ text.head?, isBlank c = false) :
    trimStartChars text = text := by
  have hnil : ∀ b ∈ ([] : List Char), isBlank b = true := by simp
  exact dropWhile_isBlank_append hnil h

theorem Token.isTidy_of_plain (token : Token) {word behind : List Char}
    (hword : ∀ c ∈ word, c.isLower = false) (hbehind : ∀ c ∈ behind.head?, isBlank c = false) :
    token.isTidy false word behind = true := by
  have hmark : behind.head?.any isBlank = false := by
    cases hhead : behind.head? with
    | none => rfl
    | some c => exact hbehind c hhead
  have hname : (match trimStartChars behind with
      | '(' :: _ => behind.head? == some '('
      | '!' :: _ => true
      | _ => word.all (! ·.isLower)) = true := by
    rw [trimStartChars_eq hbehind]
    split
    · rfl
    · rfl
    · simpa using hword
  unfold isTidy
  split
  · simp [hmark]
  · simp [hmark]
  · exact hname
  · exact hname
  · rfl

theorem isBlank_head?_of_outsideQuotes {text : List Char}
    (h : ∀ c ∈ outsideQuotes none text, isBlank c = false) :
    ∀ c ∈ text.head?, isBlank c = false := by
  intro c hc
  obtain ⟨more, rfl⟩ := List.head?_eq_some_iff.1 hc
  by_cases hq : isQuote c = true
  · simp only [isQuote, Bool.or_eq_true, decide_eq_true_eq] at hq
    rcases hq with rfl | rfl <;> decide +kernel
  · refine h c ?_
    rw [outsideQuotes_none_cons _ (by simpa using hq)]
    exact List.mem_cons_self ..

/-- A text in capitals without blanks outside of its quotes is tidy. -/
theorem isTidyText_of_plain {text : List Char}
    (hblank : ∀ c ∈ outsideQuotes none text, isBlank c = false)
    (hlower : ∀ c ∈ outsideQuotes none text, c.isLower = false) : isTidyText text = true := by
  induction hn : text.length using Nat.strong_induction_on generalizing text with
  | _ n ih =>
    cases text with
    | nil => exact isTidyText_of_blank rfl
    | cons c rest =>
      have hc := isBlank_head?_of_outsideQuotes hblank c rfl
      have hdrop : (c :: rest).dropWhile isBlank = c :: rest :=
        List.dropWhile_cons_of_neg (by simp [hc])
      obtain ⟨cs, happ⟩ := outsideQuotes_nextToken (rfl : nextToken c rest = _)
      have hsub : ∀ d ∈ outsideQuotes none (nextToken c rest).2,
          d ∈ outsideQuotes none (c :: rest) := fun d hd => by
        rw [happ]
        exact List.mem_append_right _ hd
      have hlen : (nextToken c rest).2.length < n :=
        hn ▸ Nat.lt_succ_of_le (nextToken_length_le c rest)
      have hspaced : (c :: rest).head?.any isBlank = false := hc
      rw [isTidyText_of_dropWhile hdrop, ih _ hlen (fun d hd => hblank d (hsub d hd))
        (fun d hd => hlower d (hsub d hd)) rfl, Bool.and_true, hspaced]
      by_cases hq : isQuote c = true
      · simp only [isQuote, Bool.or_eq_true, decide_eq_true_eq] at hq
        rcases hq with rfl | rfl <;> rfl
      · refine Token.isTidy_of_plain _ (fun d hd => hlower d ?_)
          (isBlank_head?_of_outsideQuotes fun d hd => hblank d (hsub d hd))
        have hword : ∀ d ∈ c :: rest.takeWhile continuesName, isQuote d = false := by
          intro d hd
          rcases List.mem_cons.1 hd with rfl | hd
          · simpa using hq
          · exact isQuote_eq_false_of_continuesName (List.mem_takeWhile_imp hd)
        have happ' := outsideQuotes_append (rest.dropWhile continuesName) hword
        rw [List.cons_append, List.takeWhile_append_dropWhile] at happ'
        rw [happ']
        exact List.mem_append_left _ hd

theorem isTidy_of_plain {formula : String}
    (hblank : ∀ c ∈ outsideQuotes none formula.toList, isBlank c = false)
    (hlower : ∀ c ∈ outsideQuotes none formula.toList, c.isLower = false) : IsTidy formula :=
  isTidyText_of_plain hblank hlower

/-! ## Taking the first token off -/

namespace TidyLexes

variable {text rest : List Char} {ts us : List Token}

theorem exists_mid (h : TidyLexes text (ts ++ us) rest) :
    ∃ mid, TidyLexes text ts mid ∧ TidyLexes mid us rest := by
  induction ts generalizing text with
  | nil => exact ⟨text, .nil text, h⟩
  | cons t ts ih =>
    cases h with
    | cons hblanks hc ht htidy h =>
      obtain ⟨mid, hts, hus⟩ := ih h
      exact ⟨mid, .cons hblanks hc ht htidy hts, hus⟩

/-- The blanks in front of the first token. -/
theorem exists_blanks {t : Token} (h : TidyLexes text (t :: ts) rest) :
    ∃ blanks front, text = blanks ++ front ∧ (∀ b ∈ blanks, isBlank b = true) ∧
      (∀ c ∈ front.head?, isBlank c = false) ∧ TidyLexes front (t :: ts) rest := by
  cases h with
  | @cons blanks c text behind _ _ _ hblanks hc ht htidy h =>
    have hnil : ∀ b ∈ ([] : List Char), isBlank b = true := by simp
    refine ⟨blanks, c :: text, rfl, hblanks, by simpa using hc, .cons hnil hc ht ?_ h⟩
    cases t <;> first | rfl | exact htidy | skip
    rename_i symbol
    cases symbol <;> first | rfl | skip
    all_goals
      simp only [Token.isTidy, Bool.and_eq_true] at htidy ⊢
      exact ⟨rfl, htidy.2⟩

section FirstToken

variable (htext : ∀ c ∈ text.head?, isBlank c = false)

include htext

/-- The first token of a text without blanks in front of it. -/
theorem exists_firstToken {t : Token} (h : TidyLexes text (t :: ts) rest) :
    ∃ c more behind, text = c :: more ∧ FirstToken text t behind ∧
      t.isTidy false (c :: more.takeWhile continuesName) behind = true ∧
      TidyLexes behind ts rest := by
  cases h with
  | @cons blanks c more behind _ _ _ hblanks hc ht htidy h =>
    cases blanks with
    | nil => exact ⟨c, more, behind, rfl, firstToken_nextToken ht, htidy, h⟩
    | cons b blanks =>
      have := hblanks b (List.mem_cons_self ..)
      rw [htext b rfl] at this
      cases this

theorem exists_symbol {symbol : Symbol} (h : TidyLexes text (.symbol symbol :: ts) rest) :
    ∃ mid, text = symbol.text.toList ++ mid ∧ TidyLexes mid ts rest := by
  obtain ⟨c, more, mid, -, hfirst, -, h⟩ := h.exists_firstToken htext
  cases hfirst with
  | symbol found ht htext' =>
    cases ht
    exact ⟨mid, htext', h⟩
  | name name ht => rcases nameToken_cases name with ⟨b, hb⟩ | hn <;> simp_all
  | _ => simp_all

theorem exists_text {s : String} (h : TidyLexes text (.text s :: ts) rest) :
    ∃ more, text = '"' :: more ∧ TidyLexes (quotedBody '"' more).2 ts rest := by
  obtain ⟨c, more, mid, -, hfirst, -, h⟩ := h.exists_firstToken htext
  cases hfirst with
  | text more ht htext' hbehind =>
    subst hbehind
    exact ⟨more, htext', h⟩
  | name name ht => rcases nameToken_cases name with ⟨b, hb⟩ | hn <;> simp_all
  | _ => simp_all

theorem exists_quotedName {s : String} (h : TidyLexes text (.quotedName s :: ts) rest) :
    ∃ more, text = '\'' :: more ∧ TidyLexes (quotedBody '\'' more).2 ts rest := by
  obtain ⟨c, more, mid, -, hfirst, -, h⟩ := h.exists_firstToken htext
  cases hfirst with
  | quotedName more ht htext' hbehind =>
    subst hbehind
    exact ⟨more, htext', h⟩
  | name name ht => rcases nameToken_cases name with ⟨b, hb⟩ | hn <;> simp_all
  | _ => simp_all

theorem exists_numeral {x : Float} (h : TidyLexes text (.number x :: ts) rest) :
    ∃ numeral mid, text = numeral ++ mid ∧ IsNumeral numeral ∧
      (∃ c more, numeral = c :: more ∧ (isAsciiDigit c || c = '.') = true) ∧
      TidyLexes mid ts rest := by
  obtain ⟨c, more, mid, -, hfirst, -, h⟩ := h.exists_firstToken htext
  cases hfirst with
  | number numeral y ht htext' hnumeral hread hstart =>
    exact ⟨numeral, mid, htext', hnumeral, hstart, h⟩
  | name name ht => rcases nameToken_cases name with ⟨b, hb⟩ | hn <;> simp_all
  | _ => simp_all

/-- A name, and the tidiness that it has by what lies behind it. -/
theorem exists_word {t : Token} (h : TidyLexes text (t :: ts) rest)
    (ht : (∃ b, t = .boolean b) ∨ ∃ s, t = .name s) :
    ∃ name mid, text = name ++ mid ∧ IsName name mid ∧ t = nameToken name ∧
      t.isTidy false name mid = true ∧ TidyLexes mid ts rest := by
  obtain ⟨c, more, mid, hcons, hfirst, htidy, h⟩ := h.exists_firstToken htext
  cases hfirst with
  | name name ht' htext' hname =>
    obtain ⟨d, word, rfl, -⟩ := hname.begins
    rw [hcons, List.cons_append, List.cons.injEq] at htext'
    obtain ⟨rfl, rfl⟩ := htext'
    have htake := (takeWhile_append_of_head (p := continuesName)
      (fun e he => hname.continues e (List.mem_cons_of_mem _ he)) hname.ends).1
    rw [htake] at htidy
    exact ⟨c :: word, mid, hcons, hname, ht', htidy, h⟩
  | _ => rcases ht with ⟨_, rfl⟩ | ⟨_, rfl⟩ <;> simp_all

end FirstToken

/-! ## Tokens side by side -/

/-- A text that begins with a symbol, perhaps behind blanks. -/
theorem trimStartChars_of_symbol {symbol : Symbol} (h : TidyLexes text (.symbol symbol :: ts) rest) :
    ∃ mid, trimStartChars text = symbol.text.toList ++ mid ∧ TidyLexes mid ts rest := by
  obtain ⟨blanks, front, rfl, hblanks, hfront, hlex⟩ := h.exists_blanks
  obtain ⟨mid, rfl, hmid⟩ := hlex.exists_symbol hfront
  exact ⟨mid, dropWhile_isBlank_append hblanks hfront, hmid⟩

/-- No blank stands beside a colon or an exclamation mark. -/
theorem exists_mark {symbol : Symbol} (h : TidyLexes text (.symbol symbol :: ts) rest)
    (hsymbol : symbol = .colon ∨ symbol = .exclamation) :
    ∃ mid, text = symbol.text.toList ++ mid ∧ (∀ c ∈ mid.head?, isBlank c = false) ∧
      TidyLexes mid ts rest := by
  have hspaced : ∀ {spaced word behind}, (Token.symbol symbol).isTidy spaced word behind = true →
      spaced = false ∧ ∀ c ∈ behind.head?, isBlank c = false := by
    intro spaced word behind htidy
    have htidy : (!spaced && !behind.head?.any isBlank) = true := by
      rcases hsymbol with rfl | rfl <;> exact htidy
    rw [Bool.and_eq_true, Bool.not_eq_true', Bool.not_eq_true'] at htidy
    refine ⟨htidy.1, fun c hc => ?_⟩
    have hany := htidy.2
    rw [hc] at hany
    exact hany
  cases h with
  | @cons blanks c more behind _ _ _ hblanks hc ht htidy h =>
    obtain ⟨hempty, hbehind⟩ := hspaced htidy
    obtain rfl : blanks = [] := by simpa using hempty
    refine ⟨behind, ?_, hbehind, h⟩
    cases firstToken_nextToken ht with
    | symbol found ht htext' =>
      cases ht
      exact htext'
    | name name ht => rcases nameToken_cases name with ⟨b, hb⟩ | hn <;> simp_all
    | _ => simp_all

/-- The parenthesis of a call stands right behind the name. -/
theorem exists_paren {name mid : List Char} (h : TidyLexes mid (.symbol .openParen :: ts) rest)
    {t : Token} (ht : (∃ b, t = .boolean b) ∨ ∃ s, t = .name s)
    (htidy : t.isTidy false name mid = true) :
    ∃ more, mid = '(' :: more ∧ TidyLexes more ts rest := by
  obtain ⟨more, htrim, hmore⟩ := h.trimStartChars_of_symbol
  have hparen : (mid.head? == some '(') = true := by
    have htrim : trimStartChars mid = '(' :: more := htrim
    rcases ht with ⟨b, rfl⟩ | ⟨s, rfl⟩ <;> simpa only [Token.isTidy, htrim] using htidy
  have hblank : ∀ c ∈ mid.head?, isBlank c = false := by
    intro c hc
    obtain rfl : '(' = c := by simpa [beq_iff_eq.1 hparen] using hc
    decide +kernel
  rw [trimStartChars_eq hblank] at htrim
  exact ⟨more, htrim, hmore⟩

end TidyLexes

/-- A name is in capitals unless a parenthesis or an exclamation mark comes next. -/
theorem isLower_of_isTidy {t : Token} {name mid : List Char}
    (ht : (∃ b, t = .boolean b) ∨ ∃ s, t = .name s) (htidy : t.isTidy false name mid = true)
    (hmid : ∀ c ∈ (trimStartChars mid).head?, c ≠ '(' ∧ c ≠ '!') :
    ∀ c ∈ name, c.isLower = false := by
  have hword : (match trimStartChars mid with
      | '(' :: _ => mid.head? == some '('
      | '!' :: _ => true
      | _ => name.all (! ·.isLower)) = true := by
    rcases ht with ⟨b, rfl⟩ | ⟨s, rfl⟩ <;> exact htidy
  split at hword
  · rename_i heq
    exact absurd rfl (hmid '(' (by rw [heq]; rfl)).1
  · rename_i heq
    exact absurd rfl (hmid '!' (by rw [heq]; rfl)).2
  · simpa using hword

end SheetPress
