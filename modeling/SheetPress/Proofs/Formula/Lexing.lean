import Mathlib
import SheetPress.Formula.Lexer
import SheetPress.Proofs.Text.Ascii

/-!
# Tokens and the text around them

`Lexes text ts rest` says that the front of `text` is cut into the tokens `ts` with no blank before
any of them, and that `rest` is what lies behind.  The rest is part of the statement because the
longest token that fits is taken.

* `Lexes.tokensOf_eq` — a text that lexes to its end has these tokens.
* `lexes_tokensOf` — a text without blanks outside of its quotes lexes to its end.
* `lexes_symbol`, `lexes_numeral`, `lexes_name` — how single tokens are written.
-/

namespace SheetPress

/-! ## Characters outside of quotes -/

/-- The characters of a text that stand outside of quotes, the quotes themselves left out. -/
def outsideQuotes (opened : Option Char) : List Char → List Char
  | [] => []
  | c :: rest =>
    if opened.isSome ∨ (openQuote opened c).isSome then outsideQuotes (openQuote opened c) rest
    else c :: outsideQuotes (openQuote opened c) rest

/-- The characters that quotes begin and end with. -/
def isQuote (c : Char) : Bool := c = '"' || c = '\''

theorem openQuote_none (c : Char) : openQuote none c = if isQuote c then some c else none := by
  simp [openQuote, isQuote]

theorem outsideQuotes_none_cons {c : Char} (rest : List Char) (h : isQuote c = false) :
    outsideQuotes none (c :: rest) = c :: outsideQuotes none rest := by
  simp [outsideQuotes, openQuote_none, h]

theorem outsideQuotes_none_quote {c : Char} (rest : List Char) (h : isQuote c = true) :
    outsideQuotes none (c :: rest) = outsideQuotes (some c) rest := by
  simp [outsideQuotes, openQuote_none, h]

theorem outsideQuotes_some_self (c : Char) (rest : List Char) :
    outsideQuotes (some c) (c :: rest) = outsideQuotes none rest := by
  simp [outsideQuotes, openQuote]

theorem outsideQuotes_some_cons {quote c : Char} (rest : List Char) (h : c ≠ quote) :
    outsideQuotes (some quote) (c :: rest) = outsideQuotes (some quote) rest := by
  simp [outsideQuotes, openQuote, h]

theorem outsideQuotes_append {cs : List Char} (rest : List Char)
    (h : ∀ c ∈ cs, isQuote c = false) :
    outsideQuotes none (cs ++ rest) = cs ++ outsideQuotes none rest := by
  induction cs with
  | nil => rfl
  | cons c cs ih =>
    rw [List.cons_append, outsideQuotes_none_cons _ (h c (by simp)),
      ih fun d hd => h d (List.mem_cons_of_mem _ hd), List.cons_append]

/-- What is outside of quotes behind an opening quote lies behind the quoted text. -/
theorem outsideQuotes_quotedBody {quote : Char} (hq : isQuote quote = true) (text : List Char) :
    outsideQuotes (some quote) text = outsideQuotes none (quotedBody quote text).2 := by
  fun_induction quotedBody quote text with
  | case1 => rfl
  | case2 => simp [outsideQuotes_some_self]
  | case3 c h => rw [outsideQuotes_some_cons _ h]; rfl
  | case4 rest body behind hbody ih =>
    rw [hbody] at ih
    rw [outsideQuotes_some_self, outsideQuotes_none_quote _ hq, ih]
  | case5 d rest hd => rw [outsideQuotes_some_self]
  | case6 c d rest hc body behind hbody ih =>
    rw [hbody] at ih
    rw [outsideQuotes_some_cons _ hc, ih]

/-! ## Symbols -/

theorem Symbol.text_ne_nil (symbol : Symbol) : symbol.text.toList ≠ [] := by
  cases symbol <;> decide

theorem Symbol.isQuote_eq_false (symbol : Symbol) :
    ∀ c ∈ symbol.text.toList, isQuote c = false := by
  cases symbol <;> exact forall_mem_of_all (by decide)

/-- The symbol at the front of a text is written there. -/
theorem symbolSpan?_eq_some {c : Char} {rest behind : List Char} {symbol : Symbol}
    (h : symbolSpan? c rest = some (symbol, behind)) :
    c :: rest = symbol.text.toList ++ behind := by
  unfold symbolSpan? at h
  split at h
  all_goals first
    | (obtain ⟨rfl, rfl⟩ := h; rfl)
    | (split at h <;> (obtain ⟨rfl, rfl⟩ := h; rfl))
    | cases h

/-- Nothing behind a symbol makes it a longer one. -/
def Symbol.EndsBefore (symbol : Symbol) (rest : List Char) : Prop :=
  (symbol = .less → rest.head? ≠ some '=' ∧ rest.head? ≠ some '>') ∧
    (symbol = .greater → rest.head? ≠ some '=')

theorem symbolSpan?_text {symbol : Symbol} {c : Char} {more rest : List Char}
    (htext : symbol.text.toList = c :: more) (h : symbol.EndsBefore rest) :
    symbolSpan? c (more ++ rest) = some (symbol, rest) := by
  obtain ⟨hless, hgreater⟩ := h
  cases symbol
  case less =>
    obtain ⟨rfl, rfl⟩ : c = '<' ∧ more = [] := by
      simpa [Symbol.text, eq_comm] using htext
    obtain ⟨h₁, h₂⟩ := hless rfl
    cases rest with
    | nil => rfl
    | cons d rest =>
      simp only [List.head?_cons, ne_eq, Option.some.injEq] at h₁ h₂
      simp only [symbolSpan?, List.nil_append]
      split <;> simp_all
  case greater =>
    obtain ⟨rfl, rfl⟩ : c = '>' ∧ more = [] := by
      simpa [Symbol.text, eq_comm] using htext
    have h₁ := hgreater rfl
    cases rest with
    | nil => rfl
    | cons d rest =>
      simp only [List.head?_cons, ne_eq, Option.some.injEq] at h₁
      simp only [symbolSpan?, List.nil_append]
      split <;> simp_all
  all_goals
    cases htext
    rfl

/-- Characters that symbols begin with. -/
def startsSymbol (c : Char) : Bool :=
  c ∈ ['+', '-', '*', '/', '^', '&', '%', '(', ')', ',', ':', '!', '=', '<', '>']

theorem symbolSpan?_eq_none {c : Char} (rest : List Char) (h : startsSymbol c = false) :
    symbolSpan? c rest = none := by
  unfold symbolSpan?
  split
  all_goals first
    | rfl
    | exact absurd h (by decide)

/-! ## Numerals -/

/-- Splitting a run off the front of a text that goes on with something else. -/
theorem takeWhile_append_of_head {p : Char → Bool} {run rest : List Char}
    (hrun : ∀ c ∈ run, p c = true) (hrest : ∀ c ∈ rest.head?, p c = false) :
    (run ++ rest).takeWhile p = run ∧ (run ++ rest).dropWhile p = rest := by
  rw [List.takeWhile_append_of_pos hrun, List.dropWhile_append_of_pos hrun]
  cases rest with
  | nil => simp
  | cons c rest => simp [hrest c rfl]

theorem head?_dropWhile {p : Char → Bool} (text : List Char) :
    ∀ c ∈ (text.dropWhile p).head?, p c = false := by
  intro c hc
  have := List.head?_dropWhile_not p text
  rw [hc] at this
  exact this

/-- The point of a numeral and the digits behind it, or nothing. -/
def IsFraction (text : List Char) : Prop :=
  text = [] ∨ ∃ digits, (∀ d ∈ digits, isAsciiDigit d = true) ∧ text = '.' :: digits

/-- The exponent of a numeral, or nothing. -/
def IsExponent (text : List Char) : Prop :=
  text = [] ∨ ∃ mark sign digits, (mark = 'e' ∨ mark = 'E') ∧ sign ∈ [[], ['+'], ['-']] ∧
    digits ≠ [] ∧ (∀ d ∈ digits, isAsciiDigit d = true) ∧ text = mark :: (sign ++ digits)

/-- A character that continues a numeral as far as it has been read. -/
def continuesNumeral (c : Char) : Bool := isAsciiDigit c || c = '.' || c = 'e' || c = 'E'

theorem signSpan_digits {sign digits : List Char} (hsign : sign ∈ [[], ['+'], ['-']])
    (hdigits : ∀ d ∈ digits.head?, isAsciiDigit d = true) :
    signSpan (sign ++ digits) = (sign, digits) := by
  simp only [List.mem_cons, List.not_mem_nil, or_false] at hsign
  rcases hsign with rfl | rfl | rfl
  · cases digits with
    | nil => rfl
    | cons d digits =>
      have hd := hdigits d rfl
      rw [List.nil_append]
      unfold signSpan
      split
      · rename_i heq
        cases heq
        exact absurd hd (by decide)
      · rename_i heq
        cases heq
        exact absurd hd (by decide)
      · rfl
  · rfl
  · rfl

theorem exponentSpan_fst (text : List Char) : IsExponent (exponentSpan text).1 := by
  fun_cases exponentSpan text with
  | case1 mark rest sign digits hsign span h =>
    refine Or.inr ⟨mark, sign, span, h.1, ?_, h.2, fun d hd => List.mem_takeWhile_imp hd, rfl⟩
    have : sign = (signSpan rest).1 := by rw [hsign]
    rw [this]
    unfold signSpan
    split <;> simp
  | case2 => exact Or.inl rfl
  | case3 => exact Or.inl rfl

theorem exponentSpan_append_of {exponent rest : List Char} (h : IsExponent exponent)
    (hrest : ∀ c ∈ rest.head?, continuesNumeral c = false) :
    exponentSpan (exponent ++ rest) = (exponent, rest) := by
  rcases h with rfl | ⟨mark, sign, digits, hmark, hsign, hne, hdigits, rfl⟩
  · cases rest with
    | nil => rfl
    | cons c rest =>
      have hc := hrest c rfl
      have : ¬ (c = 'e' ∨ c = 'E') := by
        rintro (rfl | rfl) <;> exact absurd hc (by decide)
      simp [exponentSpan, this]
  · have hhead : ∀ d ∈ (digits ++ rest).head?, isAsciiDigit d = true := by
      cases digits with
      | nil => exact absurd rfl hne
      | cons d digits => simpa using hdigits d (by simp)
    have hdigit : ∀ c ∈ rest.head?, isAsciiDigit c = false := by
      intro c hc
      have := hrest c hc
      simp only [continuesNumeral, Bool.or_eq_false_iff] at this
      exact this.1.1.1
    obtain ⟨htake, hdrop⟩ := takeWhile_append_of_head hdigits hdigit
    simp only [List.cons_append, List.append_assoc, exponentSpan, signSpan_digits hsign hhead,
      htake, hdrop]
    rw [if_pos ⟨hmark, hne⟩]

theorem fractionSpan_fst (text : List Char) : IsFraction (fractionSpan text).1 := by
  fun_cases fractionSpan text with
  | case1 rest => exact Or.inr ⟨_, fun d hd => List.mem_takeWhile_imp hd, rfl⟩
  | case2 => exact Or.inl rfl

theorem fractionSpan_append_of {fraction rest : List Char} (h : IsFraction fraction)
    (hrest : ∀ c ∈ rest.head?, isAsciiDigit c = false ∧ c ≠ '.') :
    fractionSpan (fraction ++ rest) = (fraction, rest) := by
  rcases h with rfl | ⟨digits, hdigits, rfl⟩
  · rw [List.nil_append]
    unfold fractionSpan
    split
    · exact absurd rfl (hrest '.' rfl).2
    · rfl
  · obtain ⟨htake, hdrop⟩ := takeWhile_append_of_head hdigits fun c hc => (hrest c hc).1
    simp only [List.cons_append, fractionSpan, htake, hdrop]

/-- How a numeral is written: digits, a fraction and an exponent. -/
def IsNumeral (numeral : List Char) : Prop :=
  ∃ whole fraction exponent, (∀ d ∈ whole, isAsciiDigit d = true) ∧ IsFraction fraction ∧
    IsExponent exponent ∧ numeral = whole ++ fraction ++ exponent

theorem numeralSpan_fst (text : List Char) : IsNumeral (numeralSpan text).1 :=
  ⟨_, _, _, fun _ hd => List.mem_takeWhile_imp hd, fractionSpan_fst _, exponentSpan_fst _, rfl⟩

theorem numeralSpan_append_of {numeral rest : List Char} (h : IsNumeral numeral)
    (hrest : ∀ c ∈ rest.head?, continuesNumeral c = false) :
    numeralSpan (numeral ++ rest) = (numeral, rest) := by
  obtain ⟨whole, fraction, exponent, hwhole, hfraction, hexponent, rfl⟩ := h
  -- the exponent and the text behind it begin with no digit and no point
  have htail : ∀ c ∈ (exponent ++ rest).head?, isAsciiDigit c = false ∧ c ≠ '.' := by
    rcases hexponent with rfl | ⟨mark, sign, digits, hmark, -, -, -, rfl⟩
    · intro c hc
      have := hrest c hc
      simp only [continuesNumeral, Bool.or_eq_false_iff, decide_eq_false_iff_not] at this
      exact ⟨this.1.1.1, this.1.1.2⟩
    · intro c hc
      obtain rfl : mark = c := by simpa using hc
      rcases hmark with rfl | rfl <;> decide
  have hmiddle : ∀ c ∈ (fraction ++ (exponent ++ rest)).head?, isAsciiDigit c = false := by
    rcases hfraction with rfl | ⟨digits, -, rfl⟩
    · exact fun c hc => (htail c hc).1
    · intro c hc
      obtain rfl : '.' = c := by simpa using hc
      decide
  obtain ⟨htake, hdrop⟩ := takeWhile_append_of_head hwhole hmiddle
  simp only [numeralSpan, List.append_assoc, htake, hdrop, fractionSpan_append_of hfraction htail,
    exponentSpan_append_of hexponent hrest]

/-! ## Single tokens -/

theorem startsSymbol_eq_false_of_startsName {c : Char} (h : startsName c = true) :
    startsSymbol c = false := by
  simp only [startsSymbol, decide_eq_false_iff_not]
  intro hc
  fin_cases hc <;> exact absurd h (by decide)

theorem startsSymbol_eq_false_of_digit {c : Char} (h : (isAsciiDigit c || c = '.') = true) :
    startsSymbol c = false := by
  simp only [startsSymbol, decide_eq_false_iff_not]
  intro hc
  fin_cases hc <;> exact absurd h (by decide)

theorem isQuote_eq_false_of_continuesName {c : Char} (h : continuesName c = true) :
    isQuote c = false := by
  by_contra hq
  simp only [isQuote, Bool.not_eq_false, Bool.or_eq_true, decide_eq_true_eq] at hq
  rcases hq with rfl | rfl <;> exact absurd h (by decide)

theorem nextToken_symbol {symbol : Symbol} {c : Char} {more rest : List Char}
    (htext : symbol.text.toList = c :: more) (h : symbol.EndsBefore rest) :
    nextToken c (more ++ rest) = (.symbol symbol, rest) := by
  simp only [nextToken, symbolSpan?_text htext h]

theorem nextToken_quote (rest : List Char) :
    nextToken '"' rest =
      (.text (String.ofList (quotedBody '"' rest).1), (quotedBody '"' rest).2) := rfl

theorem nextToken_digit {c : Char} (rest : List Char) (h : (isAsciiDigit c || c = '.') = true) :
    nextToken c rest =
      ((match readNumber? (numeralSpan (c :: rest)).1 with
        | some x => .number x
        | none => .illegal c), (numeralSpan (c :: rest)).2) := by
  have hquote : c ≠ '"' ∧ c ≠ '\'' := by
    constructor <;> (rintro rfl; exact absurd h (by decide))
  simp only [nextToken, symbolSpan?_eq_none rest (startsSymbol_eq_false_of_digit h),
    if_neg hquote.1, if_neg hquote.2, if_pos h]
  split <;> simp_all

/-- Whether a text begins with a name, perhaps with a dollar sign in front of it. -/
def beginsName (c : Char) (rest : List Char) : Bool :=
  startsName c || (c = '$' && rest.head?.any startsName)

theorem continuesName_of_beginsName {c : Char} {rest : List Char} (h : beginsName c rest = true) :
    continuesName c = true := by
  simp only [beginsName, Bool.or_eq_true, Bool.and_eq_true, decide_eq_true_eq] at h
  rcases h with h | ⟨rfl, -⟩
  · simp [continuesName, h]
  · decide

theorem nextToken_name {c : Char} {rest : List Char} (h : beginsName c rest = true) :
    nextToken c rest =
      (nameToken (c :: rest.takeWhile continuesName), rest.dropWhile continuesName) := by
  have hsymbol : startsSymbol c = false := by
    simp only [beginsName, Bool.or_eq_true, Bool.and_eq_true, decide_eq_true_eq] at h
    rcases h with h | ⟨rfl, -⟩
    · exact startsSymbol_eq_false_of_startsName h
    · decide
  have hdigit : (isAsciiDigit c || c = '.') = false := by
    simp only [beginsName, startsName, Bool.or_eq_true, Bool.and_eq_true, decide_eq_true_eq] at h
    rcases h with (h | rfl) | ⟨rfl, -⟩
    · rw [isAsciiDigit_eq_false_of_letter h, Bool.false_or, decide_eq_false_iff_not]
      rintro rfl
      exact absurd h (by decide)
    · decide
    · decide
  have hquote : c ≠ '"' ∧ c ≠ '\'' := by
    have := isQuote_eq_false_of_continuesName (continuesName_of_beginsName h)
    simpa [isQuote] using this
  unfold beginsName at h
  simp only [nextToken, symbolSpan?_eq_none rest hsymbol, if_neg hquote.1, if_neg hquote.2, hdigit,
    if_pos h, Bool.false_eq_true, if_false]

/-- How a name is written: it begins as one, and no character behind it continues it. -/
structure IsName (name rest : List Char) : Prop where
  begins : ∃ c more, name = c :: more ∧ beginsName c more = true
  continues : ∀ c ∈ name, continuesName c = true
  ends : ∀ c ∈ rest.head?, continuesName c = false

theorem isName_takeWhile {c : Char} {text : List Char} (h : beginsName c text = true) :
    IsName (c :: text.takeWhile continuesName) (text.dropWhile continuesName) := by
  refine ⟨⟨c, _, rfl, ?_⟩, ?_, head?_dropWhile text⟩
  · simp only [beginsName, Bool.or_eq_true, Bool.and_eq_true, decide_eq_true_eq] at h ⊢
    rcases h with h | ⟨rfl, h⟩
    · exact Or.inl h
    · right
      cases text with
      | nil => cases h
      | cons d text =>
        have hd : startsName d = true := h
        rw [List.takeWhile_cons_of_pos (by simp [continuesName, hd])]
        exact ⟨rfl, hd⟩
  · intro d hd
    rcases List.mem_cons.1 hd with rfl | hd
    · exact continuesName_of_beginsName h
    · exact List.mem_takeWhile_imp hd

theorem nameToken_cases (letters : List Char) :
    (∃ b, nameToken letters = .boolean b) ∨
      nameToken letters = .name (String.ofList (letters.map Char.toUpper)) := by
  unfold nameToken
  split
  · exact Or.inl ⟨true, rfl⟩
  · exact Or.inl ⟨false, rfl⟩
  · exact Or.inr rfl

/-- How the first token of a text is written. -/
inductive FirstToken (text : List Char) (t : Token) (behind : List Char) : Prop
  | symbol (symbol : Symbol) (ht : t = .symbol symbol) (htext : text = symbol.text.toList ++ behind)
  | text (more : List Char) (ht : t = .text (String.ofList (quotedBody '"' more).1))
      (htext : text = '"' :: more) (hbehind : behind = (quotedBody '"' more).2)
  | quotedName (more : List Char) (ht : t = .quotedName (String.ofList (quotedBody '\'' more).1))
      (htext : text = '\'' :: more) (hbehind : behind = (quotedBody '\'' more).2)
  | number (numeral : List Char) (x : Float) (ht : t = .number x) (htext : text = numeral ++ behind)
      (hnumeral : IsNumeral numeral) (hread : readNumber? numeral = some x)
      (hstart : ∃ c more, numeral = c :: more ∧ (isAsciiDigit c || c = '.') = true)
  | name (name : List Char) (ht : t = nameToken name) (htext : text = name ++ behind)
      (hname : IsName name behind)
  | illegal (c : Char) (run : List Char) (ht : t = .illegal c) (htext : text = run ++ behind)
      (hrun : ∀ d ∈ run, isQuote d = false)

/-- The characters of numerals. -/
theorem IsNumeral.of_mem {numeral : List Char} (h : IsNumeral numeral) {c : Char}
    (hc : c ∈ numeral) : isAsciiDigit c = true ∨ c ∈ ['.', 'e', 'E', '+', '-'] := by
  obtain ⟨whole, fraction, exponent, hwhole, hfraction, hexponent, rfl⟩ := h
  rcases List.mem_append.1 hc with hc | hc
  · rcases List.mem_append.1 hc with hc | hc
    · exact .inl (hwhole c hc)
    · rcases hfraction with rfl | ⟨digits, hdigits, rfl⟩
      · cases hc
      · rcases List.mem_cons.1 hc with rfl | hc
        · simp
        · exact .inl (hdigits c hc)
  · rcases hexponent with rfl | ⟨mark, sign, digits, hmark, hsign, -, hdigits, rfl⟩
    · cases hc
    · rcases List.mem_cons.1 hc with rfl | hc
      · rcases hmark with rfl | rfl <;> simp
      · rcases List.mem_append.1 hc with hc | hc
        · simp only [List.mem_cons, List.not_mem_nil, or_false] at hsign
          rcases hsign with rfl | rfl | rfl <;> simp_all
        · exact .inl (hdigits c hc)

theorem isQuote_of_mem_numeral {numeral : List Char} (h : IsNumeral numeral) {c : Char}
    (hc : c ∈ numeral) : isQuote c = false := by
  rcases h.of_mem hc with hdigit | hmark
  · by_contra hq
    simp only [isQuote, Bool.not_eq_false, Bool.or_eq_true, decide_eq_true_eq] at hq
    rcases hq with rfl | rfl <;> exact absurd hdigit (by decide)
  · fin_cases hmark <;> decide

theorem firstToken_numeral {c : Char} {text behind : List Char} {t : Token}
    (hdigit : (isAsciiDigit c || c = '.') = true) (h : nextToken c text = (t, behind)) :
    FirstToken (c :: text) t behind := by
  have happ := numeralSpan_append (c :: text)
  rw [nextToken_digit text hdigit] at h
  split at h
  · rename_i x hread
    cases h
    refine .number _ x rfl happ.symm (numeralSpan_fst _) hread ?_
    cases hspan : (numeralSpan (c :: text)).1 with
    | nil =>
      rw [hspan] at hread
      cases hread
    | cons d more =>
      rw [hspan, List.cons_append] at happ
      exact ⟨d, more, rfl, (List.cons.inj happ).1 ▸ hdigit⟩
  · cases h
    exact .illegal c _ rfl happ.symm fun d hd => isQuote_of_mem_numeral (numeralSpan_fst _) hd

theorem firstToken_nextToken {c : Char} {text behind : List Char} {t : Token}
    (h : nextToken c text = (t, behind)) : FirstToken (c :: text) t behind := by
  cases hsymbol : symbolSpan? c text with
  | some r =>
    obtain ⟨symbol, behind'⟩ := r
    simp only [nextToken, hsymbol] at h
    cases h
    exact .symbol symbol rfl (symbolSpan?_eq_some hsymbol)
  | none =>
    by_cases hdouble : c = '"'
    · subst hdouble
      rw [nextToken_quote] at h
      cases h
      exact .text text rfl rfl rfl
    · by_cases hsingle : c = '\''
      · subst hsingle
        cases h
        exact .quotedName text rfl rfl rfl
      · by_cases hdigit : (isAsciiDigit c || c = '.') = true
        · exact firstToken_numeral hdigit h
        · by_cases hname : beginsName c text = true
          · rw [nextToken_name hname] at h
            cases h
            refine .name _ rfl ?_ (isName_takeWhile hname)
            rw [List.cons_append, List.takeWhile_append_dropWhile]
          · unfold beginsName at hname
            simp only [nextToken, hsymbol, if_neg hdouble, if_neg hsingle, if_neg hdigit,
              if_neg hname] at h
            cases h
            refine .illegal c [c] rfl rfl fun d hd => ?_
            obtain rfl := List.mem_singleton.1 hd
            simp [isQuote, hdouble, hsingle]

/-! ## Runs of tokens -/

/-- The front of a text is cut into some tokens, none with a blank in front of it; the rest lies
behind them. -/
inductive Lexes : List Char → List Token → List Char → Prop
  | nil (text : List Char) : Lexes text [] text
  | cons {c : Char} {text behind rest : List Char} {t : Token} {ts : List Token}
      (hc : isBlank c = false) (ht : nextToken c text = (t, behind)) (h : Lexes behind ts rest) :
      Lexes (c :: text) (t :: ts) rest

theorem Lexes.append {text mid rest : List Char} {ts us : List Token} (h : Lexes text ts mid)
    (h' : Lexes mid us rest) : Lexes text (ts ++ us) rest := by
  induction h with
  | nil => exact h'
  | cons hc ht _ ih => exact .cons hc ht (ih h')

theorem Lexes.singleton_append {text mid rest : List Char} {t : Token} {us : List Token}
    (h : Lexes text [t] mid) (h' : Lexes mid us rest) : Lexes text (t :: us) rest :=
  h.append h'

theorem Lexes.exists_mid {text rest : List Char} {ts us : List Token}
    (h : Lexes text (ts ++ us) rest) : ∃ mid, Lexes text ts mid ∧ Lexes mid us rest := by
  induction ts generalizing text with
  | nil => exact ⟨text, .nil text, h⟩
  | cons t ts ih =>
    cases h with
    | cons hc ht h =>
      obtain ⟨mid, hts, hus⟩ := ih h
      exact ⟨mid, .cons hc ht hts, hus⟩

theorem tokensOf_nil : tokensOf [] = [] := by
  rw [tokensOf]
  rfl

theorem tokensOf_cons {c : Char} (text : List Char) (hc : isBlank c = false) :
    tokensOf (c :: text) = (nextToken c text).1 :: tokensOf (nextToken c text).2 := by
  rw [tokensOf]
  split
  · rename_i heq _
    rw [List.dropWhile_cons_of_neg (by simp [hc])] at heq
    cases heq
  · rename_i heq _
    rw [List.dropWhile_cons_of_neg (by simp [hc])] at heq
    cases heq
    rfl

/-- The tokens of a text are those that its front is cut into and those behind. -/
theorem Lexes.tokensOf_append {text rest : List Char} {ts : List Token} (h : Lexes text ts rest) :
    tokensOf text = ts ++ tokensOf rest := by
  induction h with
  | nil => rfl
  | cons hc ht _ ih => rw [tokensOf_cons _ hc, ht, ih, List.cons_append]

/-- A text that lexes to its end has these tokens. -/
theorem Lexes.tokensOf_eq {text : List Char} {ts : List Token} (h : Lexes text ts []) :
    tokensOf text = ts := by
  rw [h.tokensOf_append, tokensOf_nil, List.append_nil]

/-! ## Characters that tokens are made of -/

/-- What is outside of quotes behind a token was so before it. -/
theorem outsideQuotes_nextToken {c : Char} {rest behind : List Char} {t : Token}
    (h : nextToken c rest = (t, behind)) :
    ∃ cs, outsideQuotes none (c :: rest) = cs ++ outsideQuotes none behind := by
  cases firstToken_nextToken h with
  | symbol symbol ht htext =>
    rw [htext]
    exact ⟨_, outsideQuotes_append _ symbol.isQuote_eq_false⟩
  | text more ht htext hbehind =>
    rw [htext, hbehind, outsideQuotes_none_quote _ (by decide), outsideQuotes_quotedBody (by decide)]
    exact ⟨[], rfl⟩
  | quotedName more ht htext hbehind =>
    rw [htext, hbehind, outsideQuotes_none_quote _ (by decide), outsideQuotes_quotedBody (by decide)]
    exact ⟨[], rfl⟩
  | number numeral x ht htext hnumeral hread hstart =>
    rw [htext]
    exact ⟨_, outsideQuotes_append _ fun d hd => isQuote_of_mem_numeral hnumeral hd⟩
  | name name ht htext hname =>
    rw [htext]
    exact ⟨_, outsideQuotes_append _ fun d hd =>
      isQuote_eq_false_of_continuesName (hname.continues d hd)⟩
  | illegal c run ht htext hrun =>
    rw [htext]
    exact ⟨_, outsideQuotes_append _ hrun⟩

theorem Lexes.outsideQuotes_subset {text rest : List Char} {ts : List Token}
    (h : Lexes text ts rest) : ∀ c ∈ outsideQuotes none rest, c ∈ outsideQuotes none text := by
  induction h with
  | nil => exact fun _ hc => hc
  | cons _ ht _ ih =>
    intro c hc
    obtain ⟨cs, happ⟩ := outsideQuotes_nextToken ht
    rw [happ]
    exact List.mem_append_right _ (ih c hc)

/-- A text without blanks outside of its quotes lexes to its end. -/
theorem lexes_tokensOf {text : List Char}
    (h : ∀ c ∈ outsideQuotes none text, isBlank c = false) : Lexes text (tokensOf text) [] := by
  match text with
  | [] =>
    rw [tokensOf_nil]
    exact .nil []
  | c :: text =>
    have hnext : nextToken c text = (_, _) := rfl
    obtain ⟨cs, happ⟩ := outsideQuotes_nextToken hnext
    have hc : isBlank c = false := by
      by_cases hq : isQuote c = true
      · simp only [isQuote, Bool.or_eq_true, decide_eq_true_eq] at hq
        rcases hq with rfl | rfl <;> decide +kernel
      · refine h c ?_
        rw [outsideQuotes_none_cons _ (by simpa using hq)]
        exact List.mem_cons_self ..
    rw [tokensOf_cons text hc]
    refine .cons hc rfl (lexes_tokensOf fun d hd => h d ?_)
    rw [happ]
    exact List.mem_append_right _ hd
termination_by text.length
decreasing_by exact Nat.lt_succ_of_le (nextToken_length_le c text)

/-! ## Taking the first token off -/

section FirstToken

variable {text rest : List Char} {ts : List Token}

theorem Lexes.exists_firstToken {t : Token} (h : Lexes text (t :: ts) rest) :
    ∃ behind, FirstToken text t behind ∧ Lexes behind ts rest := by
  cases h with
  | cons _ ht h => exact ⟨_, firstToken_nextToken ht, h⟩

theorem Lexes.exists_symbol {symbol : Symbol} (h : Lexes text (.symbol symbol :: ts) rest) :
    ∃ mid, text = symbol.text.toList ++ mid ∧ Lexes mid ts rest := by
  obtain ⟨mid, hfirst, h⟩ := h.exists_firstToken
  cases hfirst with
  | symbol found ht htext =>
    cases ht
    exact ⟨mid, htext, h⟩
  | name name ht => rcases nameToken_cases name with ⟨b, hb⟩ | hn <;> simp_all
  | _ => simp_all

theorem Lexes.exists_text {s : String} (h : Lexes text (.text s :: ts) rest) :
    ∃ more, text = '"' :: more ∧ s = String.ofList (quotedBody '"' more).1 ∧
      Lexes (quotedBody '"' more).2 ts rest := by
  obtain ⟨mid, hfirst, h⟩ := h.exists_firstToken
  cases hfirst with
  | text more ht htext hbehind =>
    cases ht
    subst hbehind
    exact ⟨more, htext, rfl, h⟩
  | name name ht => rcases nameToken_cases name with ⟨b, hb⟩ | hn <;> simp_all
  | _ => simp_all

theorem Lexes.exists_numeral {x : Float} (h : Lexes text (.number x :: ts) rest) :
    ∃ numeral mid, text = numeral ++ mid ∧ IsNumeral numeral ∧ readNumber? numeral = some x ∧
      (∃ c more, numeral = c :: more ∧ (isAsciiDigit c || c = '.') = true) ∧
      Lexes mid ts rest := by
  obtain ⟨mid, hfirst, h⟩ := h.exists_firstToken
  cases hfirst with
  | number numeral y ht htext hnumeral hread hstart =>
    cases ht
    exact ⟨numeral, mid, htext, hnumeral, hread, hstart, h⟩
  | name name ht => rcases nameToken_cases name with ⟨b, hb⟩ | hn <;> simp_all
  | _ => simp_all

theorem Lexes.exists_name {t : Token} (h : Lexes text (t :: ts) rest)
    (ht : (∃ b, t = .boolean b) ∨ ∃ s, t = .name s) :
    ∃ name mid, text = name ++ mid ∧ IsName name mid ∧ t = nameToken name ∧ Lexes mid ts rest := by
  obtain ⟨mid, hfirst, h⟩ := h.exists_firstToken
  cases hfirst with
  | name name ht' htext hname => exact ⟨name, mid, htext, hname, ht', h⟩
  | _ => rcases ht with ⟨_, rfl⟩ | ⟨_, rfl⟩ <;> simp_all

/-! ## Putting a token in front -/

theorem toNat_of_continuesName {c : Char} (h : continuesName c = true) :
    36 ≤ c.toNat ∧ c.toNat < 128 := by
  simp only [continuesName, startsName, Bool.or_eq_true, decide_eq_true_eq, isAsciiLetter_iff,
    isUpper_iff, isLower_iff, isAsciiDigit_iff] at h
  rcases h with (((h | rfl) | h) | rfl) | rfl
  · omega
  · decide
  · omega
  · decide
  · decide

theorem isBlank_eq_false_of_continuesName {c : Char} (h : continuesName c = true) :
    isBlank c = false := by
  have hcode := toNat_of_continuesName h
  unfold isBlank whiteSpaceRanges
  rw [CodeRanges.contains, CodeRanges.contains, CodeRanges.contains]
  split_ifs <;> first | rfl | omega

theorem Symbol.isBlank_eq_false (symbol : Symbol) :
    ∀ c ∈ symbol.text.toList, isBlank c = false := by
  cases symbol <;> exact forall_mem_of_all (by decide +kernel)

theorem lexes_symbol (symbol : Symbol) (h : symbol.EndsBefore rest) :
    Lexes (symbol.text.toList ++ rest) [.symbol symbol] rest := by
  obtain ⟨c, more, hcons⟩ := List.exists_cons_of_ne_nil symbol.text_ne_nil
  rw [hcons, List.cons_append]
  refine .cons (symbol.isBlank_eq_false c ?_) (nextToken_symbol hcons h) (.nil rest)
  rw [hcons]
  exact List.mem_cons_self ..

theorem lexes_numeral {numeral : List Char} {x : Float} (h : IsNumeral numeral)
    (hread : readNumber? numeral = some x)
    (hstart : ∃ c more, numeral = c :: more ∧ (isAsciiDigit c || c = '.') = true)
    (hrest : ∀ c ∈ rest.head?, continuesNumeral c = false) :
    Lexes (numeral ++ rest) [.number x] rest := by
  obtain ⟨c, more, rfl, hc⟩ := hstart
  have hblank : isBlank c = false := by
    refine isBlank_eq_false_of_continuesName ?_
    simp only [Bool.or_eq_true, decide_eq_true_eq] at hc
    rcases hc with hc | rfl
    · simp [continuesName, hc]
    · decide
  have hspan := numeralSpan_append_of h hrest
  rw [List.cons_append] at hspan ⊢
  refine .cons hblank ?_ (.nil rest)
  rw [nextToken_digit _ hc, hspan]
  simp only [hread]

theorem lexes_name {name : List Char} (h : IsName name rest) :
    Lexes (name ++ rest) [nameToken name] rest := by
  obtain ⟨c, more, rfl, hbegins⟩ := h.begins
  have hmore : ∀ d ∈ more, continuesName d = true := fun d hd =>
    h.continues d (List.mem_cons_of_mem _ hd)
  obtain ⟨htake, hdrop⟩ := takeWhile_append_of_head hmore h.ends
  have hblank := isBlank_eq_false_of_continuesName (h.continues c (List.mem_cons_self ..))
  have hbegins' : beginsName c (more ++ rest) = true := by
    simp only [beginsName, Bool.or_eq_true, Bool.and_eq_true, decide_eq_true_eq] at hbegins ⊢
    rcases hbegins with hc | ⟨rfl, hmore⟩
    · exact Or.inl hc
    · cases more with
      | nil => cases hmore
      | cons d more => exact Or.inr ⟨rfl, hmore⟩
  rw [List.cons_append]
  refine .cons hblank ?_ (.nil rest)
  rw [nextToken_name hbegins', htake, hdrop]

theorem lexes_text {more behind body : List Char} (h : quotedBody '"' more = (body, behind)) :
    Lexes ('"' :: more) [.text (String.ofList body)] behind := by
  refine .cons (by decide +kernel) ?_ (.nil behind)
  rw [nextToken_quote, h]

/-! ## Ranges -/

theorem endsBefore_of_ne {symbol : Symbol} (hless : symbol ≠ .less) (hgreater : symbol ≠ .greater)
    (rest : List Char) : symbol.EndsBefore rest :=
  ⟨fun h => absurd h hless, fun h => absurd h hgreater⟩

theorem lexes_colon (rest : List Char) : Lexes (':' :: rest) [.symbol .colon] rest :=
  lexes_symbol .colon (endsBefore_of_ne (by decide) (by decide) rest)

/-- Two names with a colon between them. -/
theorem lexes_range {first last : List Char} {t u : Token}
    (hfirst : Lexes (first ++ ':' :: (last ++ rest)) [t] (':' :: (last ++ rest)))
    (hlast : Lexes (last ++ rest) [u] rest) :
    Lexes (first ++ ':' :: last ++ rest) [t, .symbol .colon, u] rest := by
  rw [List.append_assoc, List.cons_append]
  exact hfirst.singleton_append ((lexes_colon _).singleton_append hlast)

theorem ends_name_colon (rest : List Char) :
    ∀ c ∈ (':' :: rest).head?, continuesName c = false := by
  intro c hc
  obtain rfl : ':' = c := by simpa using hc
  decide

end FirstToken

end SheetPress
