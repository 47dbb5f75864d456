import Mathlib
import SheetPress.Proofs.Formula.Rescanning
import SheetPress.Proofs.Formula.Tidy

/-!
# Characters that formulas are not made of

A character such as `#` begins no token and continues none.  Outside of quotes it becomes an illegal
token, and no phrase has one, so that a text which holds the character is no formula.  An edit that
writes it in place of a reference makes such a text: references are found outside of quotes only.

* `exists_illegal_of_isForeign` — a foreign character outside of quotes is an illegal token.
* `Derives.illegal_notMem` — a phrase has no illegal token.
* `parseFormula_ne_ok_of_isForeign` — a text with such a character does not parse.
* `referencesUnquoted_piecesFrom` — references are found outside of quotes only.
* `mem_outsideQuotes_editedFrom` — what is written in place of a reference stands outside of quotes.
-/

namespace SheetPress

/-- Characters that are no blanks and no part of a token outside of quotes. -/
def isForeign (c : Char) : Bool := !(isBlank c || isQuote c || startsSymbol c || continuesName c)

section Characters

variable {c : Char}

theorem of_isForeign (h : isForeign c = true) :
    isBlank c = false ∧ isQuote c = false ∧ startsSymbol c = false ∧ continuesName c = false := by
  simpa [isForeign, and_assoc] using h

/-- Of the digits of all scripts only `0` to `9` are no foreign characters. -/
theorem isAsciiDigit_of_isForeign_eq_false (h : isForeign c = false)
    (hdigit : isDecimalDigit c = true) : isAsciiDigit c = true := by
  simp only [isForeign, Bool.not_eq_false', Bool.or_eq_true] at h
  have hne : ∀ {d : Char}, isDecimalDigit d = false → c ≠ d := by
    rintro d hd rfl
    rw [hdigit] at hd
    cases hd
  rcases h with ((h | h) | h) | h
  · rw [(of_isBlank h).1] at hdigit
    cases hdigit
  · simp only [isQuote, Bool.or_eq_true, decide_eq_true_eq] at h
    rcases h with rfl | rfl <;> exact absurd rfl (hne (by decide +kernel))
  · simp only [startsSymbol, decide_eq_true_eq] at h
    fin_cases h <;> exact absurd rfl (hne (by decide +kernel))
  · exact isAsciiDigit_of_isDecimalDigit hdigit (toNat_of_continuesName h).2

theorem Symbol.startsSymbol_of_mem (symbol : Symbol) :
    ∀ d ∈ symbol.text.toList, startsSymbol d = true := by
  cases symbol <;> exact forall_mem_of_all (by decide)

theorem notMem_of_isForeign (h : isForeign c = true) (symbol : Symbol) : c ∉ symbol.text.toList := by
  intro hc
  have := symbol.startsSymbol_of_mem c hc
  rw [(of_isForeign h).2.2.1] at this
  cases this

theorem IsNumeral.notMem_of_isForeign {numeral : List Char} (hnumeral : IsNumeral numeral)
    (h : isForeign c = true) : c ∉ numeral := by
  intro hc
  rcases hnumeral.of_mem hc with hdigit | hmark
  · have := (of_isForeign h).2.2.2
    simp [continuesName, hdigit] at this
  · fin_cases hmark <;> exact absurd h (by decide +kernel)

end Characters

/-! ## Illegal tokens -/

section Tokens

variable {c : Char} {text : List Char}

/-- A foreign character outside of quotes is an illegal token itself or lies behind the token. -/
theorem mem_outsideQuotes_nextToken (hc : isForeign c = true) {d : Char} {rest behind : List Char}
    {t : Token} (ht : nextToken d rest = (t, behind)) (h : c ∈ outsideQuotes none (d :: rest)) :
    (∃ e, t = .illegal e) ∨ c ∈ outsideQuotes none behind := by
  cases firstToken_nextToken ht with
  | symbol symbol ht htext =>
    rw [htext, outsideQuotes_append _ symbol.isQuote_eq_false] at h
    exact .inr ((List.mem_append.1 h).resolve_left (notMem_of_isForeign hc symbol))
  | text more ht htext hbehind =>
    rw [htext, outsideQuotes_none_quote _ (by decide), outsideQuotes_quotedBody (by decide)] at h
    exact .inr (hbehind ▸ h)
  | quotedName more ht htext hbehind =>
    rw [htext, outsideQuotes_none_quote _ (by decide), outsideQuotes_quotedBody (by decide)] at h
    exact .inr (hbehind ▸ h)
  | number numeral x ht htext hnumeral hread hstart =>
    rw [htext, outsideQuotes_append _ fun e he => isQuote_of_mem_numeral hnumeral he] at h
    exact .inr ((List.mem_append.1 h).resolve_left (hnumeral.notMem_of_isForeign hc))
  | name name ht htext hname =>
    rw [htext, outsideQuotes_append _ fun e he =>
      isQuote_eq_false_of_continuesName (hname.continues e he)] at h
    refine .inr ((List.mem_append.1 h).resolve_left fun hmem => ?_)
    have := hname.continues c hmem
    rw [(of_isForeign hc).2.2.2] at this
    cases this
  | illegal e run ht htext hrun => exact .inl ⟨e, ht⟩

/-- A foreign character outside of quotes is an illegal token. -/
theorem exists_illegal_of_isForeign (hc : isForeign c = true) (h : c ∈ outsideQuotes none text) :
    ∃ e, .illegal e ∈ tokensOf text := by
  induction hn : text.length using Nat.strong_induction_on generalizing text with
  | _ n ih =>
    obtain ⟨blanks, htext, hblanks, -⟩ := exists_blanks text
    have hmem : c ∈ outsideQuotes none (text.dropWhile isBlank) := by
      rw [htext, outsideQuotes_append _ fun b hb => (of_isBlank (hblanks b hb)).2.2.2.1] at h
      refine (List.mem_append.1 h).resolve_left fun hb => ?_
      have := hblanks c hb
      rw [(of_isForeign hc).1] at this
      cases this
    cases hdrop : text.dropWhile isBlank with
    | nil =>
      rw [hdrop] at hmem
      cases hmem
    | cons d rest =>
      rw [hdrop] at hmem
      rw [tokensOf_of_dropWhile hdrop]
      rcases mem_outsideQuotes_nextToken hc rfl hmem with ⟨e, ht⟩ | hbehind
      · exact ⟨e, ht ▸ List.mem_cons_self ..⟩
      · have hlen : (nextToken d rest).2.length < n := hn ▸ length_nextToken_lt_of_dropWhile hdrop
        obtain ⟨e, he⟩ := ih _ hlen hbehind rfl
        exact ⟨e, List.mem_cons_of_mem _ he⟩

theorem holdsInPhrases_illegal_notMem (c : Char) : HoldsInPhrases (.illegal c ∉ ·) where
  nil := List.not_mem_nil
  operand ht := by
    rintro hmem
    rw [← List.mem_singleton.1 hmem] at ht
    cases ht
  quoted sheet ts h := by simpa using h
  join symbol h h' := by simpa using ⟨h, h'⟩

/-- A phrase has no illegal token. -/
theorem Derives.illegal_notMem {phrase : Phrase} {ts : List Token} {e : Expr}
    (h : Derives phrase ts e) (c : Char) : .illegal c ∉ ts :=
  (holdsInPhrases_illegal_notMem c).derives h

/-- A text with a foreign character outside of quotes does not parse. -/
theorem parseFormula_ne_ok_of_isForeign (hc : isForeign c = true) {formula : String}
    (h : c ∈ outsideQuotes none formula.toList) (e : Expr) : parseFormula formula ≠ .ok e := by
  intro hparse
  obtain ⟨d, hd⟩ := exists_illegal_of_isForeign hc h
  unfold parseFormula tokenize at hparse
  rw [parseTokens_eq_ok_iff] at hparse
  refine hparse.illegal_notMem d ?_
  generalize tokensOf formula.toList = ts at hd
  unfold dropEquals
  split
  · simpa using hd
  · exact hd

end Tokens

/-! ## Edits -/

section Edits

variable {f : Reference → Option String} {opened before : Option Char} {text : List Char} {c : Char}

theorem mem_outsideQuotes_cons {d : Char} (h : c ∈ outsideQuotes (openQuote opened d) text) :
    c ∈ outsideQuotes opened (d :: text) := by
  rw [outsideQuotes]
  split
  · exact h
  · exact List.mem_cons_of_mem _ h

theorem isQuote_of_openQuote (hopened : ∀ q ∈ opened, isQuote q = true) (d : Char) :
    ∀ q ∈ openQuote opened d, isQuote q = true := by
  intro q hq
  cases opened with
  | none =>
    rw [openQuote_none] at hq
    split at hq
    · next hd =>
      obtain rfl : d = q := by simpa using hq
      exact hd
    · cases hq
  | some quote =>
    unfold openQuote at hq
    dsimp only at hq
    split at hq
    · cases hq
    · exact hopened q hq

theorem openQuote_of_plain (hopened : ∀ q ∈ opened, isQuote q = true) {d : Char}
    (hd : isQuote d = false) : openQuote opened d = opened := by
  cases opened with
  | none =>
    rw [openQuote_none, hd]
    rfl
  | some quote =>
    have hne : d ≠ quote := by
      rintro rfl
      rw [hopened d rfl] at hd
      cases hd
    simp [openQuote, hne]

theorem foldl_openQuote_of_plain (hopened : ∀ q ∈ opened, isQuote q = true) {run : List Char}
    (hrun : ∀ d ∈ run, isQuote d = false) : run.foldl openQuote opened = opened := by
  induction run with
  | nil => rfl
  | cons d run ih =>
    rw [List.foldl_cons, openQuote_of_plain hopened (hrun d (List.mem_cons_self ..)),
      ih fun e he => hrun e (List.mem_cons_of_mem _ he)]

/-- What stands outside of quotes behind a text does so in the whole, given the quote that the text
leaves open. -/
theorem mem_outsideQuotes_append_of_foldl {run : List Char}
    (h : c ∈ outsideQuotes (run.foldl openQuote opened) text) :
    c ∈ outsideQuotes opened (run ++ text) := by
  induction run generalizing opened with
  | nil => exact h
  | cons d run ih => exact mem_outsideQuotes_cons (ih h)

/-- The references among the pieces of a text stand outside of quotes and have none in them;
`opened` is the quote that is open in front of the pieces. -/
def ReferencesUnquoted (opened : Option Char) : List Piece → Prop
  | [] => True
  | .char d :: pieces => ReferencesUnquoted (openQuote opened d) pieces
  | .reference source _ :: pieces =>
    opened = none ∧ (∀ d ∈ source.chars, isQuote d = false) ∧ ReferencesUnquoted none pieces

theorem ReferencesUnquoted.plain_append {run : List Char} {pieces : List Piece}
    (h : ReferencesUnquoted opened pieces) (hopened : ∀ q ∈ opened, isQuote q = true)
    (hrun : ∀ d ∈ run, isQuote d = false) :
    ReferencesUnquoted opened (run.map .char ++ pieces) := by
  induction run with
  | nil => exact h
  | cons d run ih =>
    rw [List.map_cons, List.cons_append, ReferencesUnquoted,
      openQuote_of_plain hopened (hrun d (List.mem_cons_self ..))]
    exact ih fun e he => hrun e (List.mem_cons_of_mem _ he)

/-- References are found outside of quotes only. -/
theorem referencesUnquoted_piecesFrom (hopened : ∀ q ∈ opened, isQuote q = true) :
    ReferencesUnquoted opened (piecesFrom opened before text) := by
  fun_induction piecesFrom opened before text with
  | case1 => trivial
  | case2 opened before d rest source behind hsplit _ ih =>
    have hplain := (ReferenceText.spelled_of_split? hsplit).1.isQuote_eq_false
    rcases source.pieces_eq opened before behind.head? with hpieces | ⟨ref, -, halone, hpieces⟩
    · rw [hpieces]
      exact (ih hopened).plain_append hopened hplain
    · -- a reference is found, so no quote is open
      obtain rfl : opened = none := by
        rw [Bool.and_eq_true] at halone
        exact Option.isNone_iff_eq_none.1 halone.1
      rw [hpieces]
      exact ⟨rfl, hplain, ih hopened⟩
  | case3 opened before d rest hsplit ih => exact ih (isQuote_of_openQuote hopened d)

/-- What is written without quotes in place of a reference that stands outside of quotes does so,
too. -/
theorem ReferencesUnquoted.mem_outsideQuotes {pieces : List Piece}
    (h : ReferencesUnquoted opened pieces)
    (hf : ∀ source ref, .reference source ref ∈ pieces → ∀ new ∈ f ref,
      ∀ d ∈ new.toList, isQuote d = false)
    {source : ReferenceText} {ref : Reference} (hmem : .reference source ref ∈ pieces)
    {new : String} (hnew : f ref = some new) (hc : c ∈ new.toList) :
    c ∈ outsideQuotes opened (pieces.flatMap (Piece.edited f)) := by
  induction pieces generalizing opened with
  | nil => cases hmem
  | cons piece pieces ih =>
    have hf' : ∀ source ref, .reference source ref ∈ pieces → ∀ new ∈ f ref,
        ∀ d ∈ new.toList, isQuote d = false := fun source ref hmem =>
      hf source ref (List.mem_cons_of_mem _ hmem)
    rw [List.flatMap_cons]
    cases piece with
    | char d => exact mem_outsideQuotes_cons (ih h hf' (by simpa using hmem))
    | reference found ref' =>
      obtain ⟨rfl, hplain, hrest⟩ := h
      have hedited : ∀ e ∈ Piece.edited f (.reference found ref'), isQuote e = false := by
        cases hfound : f ref' with
        | none => simpa [Piece.edited, hfound] using hplain
        | some t =>
          have := hf found ref' (List.mem_cons_self ..) t hfound
          simpa [Piece.edited, hfound] using this
      rw [outsideQuotes_append _ hedited, List.mem_append]
      rcases List.mem_cons.1 hmem with heq | hmem
      · obtain ⟨rfl, rfl⟩ : source = found ∧ ref = ref' := by simpa using heq
        exact .inl (by simpa [Piece.edited, hnew] using hc)
      · exact .inr (ih hrest hf' hmem)

/-- What an edit without quotes writes in place of a reference stands outside of quotes. -/
theorem mem_outsideQuotes_editedFrom (hopened : ∀ q ∈ opened, isQuote q = true)
    (hf : ∀ source ref, .reference source ref ∈ piecesFrom opened before text → ∀ new ∈ f ref,
      ∀ d ∈ new.toList, isQuote d = false)
    {source : ReferenceText} {ref : Reference}
    (h : .reference source ref ∈ piecesFrom opened before text) {new : String}
    (hnew : f ref = some new) (hc : c ∈ new.toList) :
    c ∈ outsideQuotes opened (editedFrom f opened before text) := by
  rw [editedFrom_eq_flatMap]
  exact (referencesUnquoted_piecesFrom hopened).mem_outsideQuotes hf h hnew hc

end Edits

end SheetPress
