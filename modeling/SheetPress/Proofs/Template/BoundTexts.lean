import SheetPress.Proofs.Formula.Neighbors
import SheetPress.Template.Expression

/-!
# Texts with names bound to cells

An expression is bound by writing the addresses of scratch cells in place of names.  Two ways to number
the cells give two texts, and these are cut into the same tokens but for the addresses.

* `BoundAlike` — two texts that differ in addresses only.
* `TokensAlike` — what their tokens have in common.
* `BoundAlike.tokensAlike` — texts that differ in addresses only have tokens that do.
-/

namespace SheetPress

/-! ## Characters of names -/

section Characters

variable {c : Char}

theorem of_isNameChar (h : isNameChar c = true) :
    isBlank c = false ∧ startsSymbol c = false ∧ isQuote c = false ∧ c ≠ '.' ∧ c ≠ '$' := by
  have hne : ∀ {d : Char}, isNameChar d = false → c ≠ d := by
    rintro d hd rfl
    rw [h] at hd
    cases hd
  refine ⟨?_, ?_, ?_, hne (by decide +kernel), hne (by decide +kernel)⟩
  · by_contra hblank
    rw [Bool.not_eq_false] at hblank
    have hnone : isNameChar c = false := of_isBlank_of_forall hblank (by decide +kernel)
    rw [h] at hnone
    cases hnone
  · rw [startsSymbol, decide_eq_false_iff_not]
    intro hc
    fin_cases hc <;> exact absurd h (by decide +kernel)
  · rw [isQuote, Bool.or_eq_false_iff, decide_eq_false_iff_not, decide_eq_false_iff_not]
    exact ⟨hne (by decide +kernel), hne (by decide +kernel)⟩

/-- The characters that names of formulas go on with are characters of names, but for two. -/
theorem isNameChar_of_continuesName (h : continuesName c = true) (hdot : c ≠ '.')
    (hdollar : c ≠ '$') : isNameChar c = true := by
  have hall : ∀ code ∈ List.range 128, continuesName (Char.ofNat code) = true →
      Char.ofNat code ≠ '.' → Char.ofNat code ≠ '$' → isNameChar (Char.ofNat code) = true := by
    decide +kernel
  have := hall c.toNat (List.mem_range.2 (toNat_of_continuesName h).2)
  rw [Char.ofNat_toNat] at this
  exact this h hdot hdollar

end Characters

/-! ## Addresses -/

theorem toList_address_scratchPlace (n : Nat) :
    (scratchPlace n).address.toList = 'A' :: Nat.toDigits 10 (n + 1) := by
  rw [Coord.address, String.toList_ofList, scratchPlace, columnLetters]
  rfl

section Addresses

variable {n : Nat} {c : Char}

theorem continuesName_of_mem_address (h : c ∈ (scratchPlace n).address.toList) :
    continuesName c = true := by
  rw [toList_address_scratchPlace] at h
  rcases List.mem_cons.1 h with rfl | h
  · decide
  · simp [continuesName, isAsciiDigit_of_mem_toDigits h]

theorem toUpper_of_mem_address (h : c ∈ (scratchPlace n).address.toList) : c.toUpper = c := by
  rw [toList_address_scratchPlace] at h
  rcases List.mem_cons.1 h with rfl | h
  · decide
  · have hdigit := isAsciiDigit_iff.1 (isAsciiDigit_of_mem_toDigits h)
    refine toUpper_of_isLower_eq_false ?_
    rw [← Bool.not_eq_true, isLower_iff]
    omega

end Addresses

/-! ## Texts that differ in addresses only -/

/-- The words for truth values, in any case. -/
def IsTruthWord (word : List Char) : Prop :=
  word.map Char.toUpper = ['T', 'R', 'U', 'E'] ∨ word.map Char.toUpper = ['F', 'A', 'L', 'S', 'E']

/-- A word in front of some text that is not bound: a number, the name of a function or a truth
value. -/
structure KeptWord (word behind : List Char) : Prop where
  names : ∀ c ∈ word, isNameChar c = true
  ends : ∀ c ∈ behind.head?, isNameChar c = false
  kind : word.head?.any isAsciiDigit = true ∨ (behind.dropWhile isBlank).head? = some '(' ∨
    IsTruthWord word

/-- Two texts that are equal but for addresses of scratch cells, whose numbers are related.  The texts
begin inside or outside of a text literal. -/
inductive BoundAlike (R : Nat → Nat → Prop) : Bool → List Char → List Char → Prop
  | nil (quoted : Bool) : BoundAlike R quoted [] []
  | quote {quoted : Bool} {s t : List Char} (h : BoundAlike R (!quoted) s t) :
      BoundAlike R quoted ('"' :: s) ('"' :: t)
  | literal {c : Char} {s t : List Char} (hc : c ≠ '"' ∧ c ≠ '!') (h : BoundAlike R true s t) :
      BoundAlike R true (c :: s) (c :: t)
  | other {c : Char} {s t : List Char} (hname : isNameChar c = false)
      (hc : c ∉ ['"', '$', ':', '!']) (h : BoundAlike R false s t) :
      BoundAlike R false (c :: s) (c :: t)
  | kept {c : Char} {word s t : List Char} (hword : KeptWord (c :: word) s)
      (h : BoundAlike R false s t) : BoundAlike R false (c :: (word ++ s)) (c :: (word ++ t))
  | address {i j : Nat} {s t : List Char} (hij : R i j) (hend : ∀ c ∈ s.head?, isNameChar c = false)
      (h : BoundAlike R false s t) :
      BoundAlike R false ((scratchPlace i).address.toList ++ s) ((scratchPlace j).address.toList ++ t)

namespace BoundAlike

variable {R : Nat → Nat → Prop} {quoted : Bool} {c : Char} {s t : List Char}

theorem head?_eq (h : BoundAlike R quoted s t) : s.head? = t.head? := by
  cases h with
  | address =>
    rw [toList_address_scratchPlace, toList_address_scratchPlace]
    rfl
  | _ => rfl

/-- Exclamation marks are not in these texts. -/
theorem notMem (h : BoundAlike R quoted s t) : '!' ∉ s ∧ '!' ∉ t := by
  have hname : ∀ {word : List Char}, (∀ c ∈ word, isNameChar c = true) → '!' ∉ word :=
    fun hword hmem => absurd (hword _ hmem) (by decide +kernel)
  have haddress (n : Nat) : '!' ∉ (scratchPlace n).address.toList :=
    fun hmem => absurd (continuesName_of_mem_address hmem) (by decide)
  induction h with
  | nil => exact ⟨List.not_mem_nil, List.not_mem_nil⟩
  | quote _ ih => simpa using ih
  | literal hc _ ih => simpa [hc.2.symm] using ih
  | other hname' hc _ ih =>
    simp only [List.mem_cons, List.not_mem_nil, or_false, not_or] at hc
    simpa [Ne.symm hc.2.2.2] using ih
  | @kept c word s t hword _ ih =>
    have hmem := hname hword.names
    rw [← List.cons_append, ← List.cons_append, List.mem_append, List.mem_append]
    exact ⟨fun h => h.elim hmem ih.1, fun h => h.elim hmem ih.2⟩
  | address _ _ _ ih =>
    rw [List.mem_append, List.mem_append]
    exact ⟨fun h => h.elim (haddress _) ih.1, fun h => h.elim (haddress _) ih.2⟩

/-- Behind a character that is in no name and no quote, the texts go on alike. -/
theorem tail_of_ne (h : BoundAlike R false (c :: s) t) (hname : isNameChar c = false)
    (hquote : c ≠ '"') : ∃ t', t = c :: t' ∧ BoundAlike R false s t' := by
  generalize hcs : c :: s = cs at h
  cases h with
  | nil => cases hcs
  | quote h => cases hcs; exact absurd rfl hquote
  | other hname hc h => cases hcs; exact ⟨_, rfl, h⟩
  | kept hword h =>
    cases hcs
    rw [hword.names c (List.mem_cons_self ..)] at hname
    cases hname
  | address hij hend h =>
    rw [toList_address_scratchPlace] at hcs
    cases hcs
    exact absurd hname (by decide +kernel)

theorem tail_of_quote (h : BoundAlike R quoted ('"' :: s) t) :
    ∃ t', t = '"' :: t' ∧ BoundAlike R (!quoted) s t' := by
  generalize hcs : '"' :: s = cs at h
  cases h with
  | nil => cases hcs
  | quote h => cases hcs; exact ⟨_, rfl, h⟩
  | literal hc h => cases hcs; exact absurd rfl hc.1
  | other hname hc h => cases hcs; exact absurd (List.mem_cons_self ..) hc
  | kept hword h =>
    cases hcs
    exact absurd (hword.names _ (List.mem_cons_self ..)) (by decide +kernel)
  | address hij hend h =>
    rw [toList_address_scratchPlace] at hcs
    cases hcs

theorem tail_of_literal (h : BoundAlike R true (c :: s) t) (hc : c ≠ '"') :
    ∃ t', t = c :: t' ∧ BoundAlike R true s t' := by
  cases h with
  | quote h => exact absurd rfl hc
  | literal hc h => exact ⟨_, rfl, h⟩

theorem eq_nil (h : BoundAlike R quoted [] t) : t = [] :=
  List.head?_eq_none_iff.1 h.head?_eq.symm

/-! ### Text literals -/

/-- A text literal has the same text, and what lies behind it is alike. -/
theorem span_literal (h : BoundAlike R true s t) :
    (quotedBody '"' s).1 = (quotedBody '"' t).1 ∧
      BoundAlike R false (quotedBody '"' s).2 (quotedBody '"' t).2 := by
  fun_induction quotedBody '"' s generalizing t with
  | case1 =>
    obtain rfl := h.eq_nil
    exact ⟨rfl, .nil false⟩
  | case2 =>
    obtain ⟨t, rfl, hnil⟩ := h.tail_of_quote
    obtain rfl := hnil.eq_nil
    exact ⟨rfl, .nil false⟩
  | case3 c hc =>
    obtain ⟨t, rfl, hnil⟩ := h.tail_of_literal hc
    obtain rfl := hnil.eq_nil
    simp only [quotedBody, if_neg hc]
    exact ⟨trivial, .nil false⟩
  | case4 rest body behind hbody ih =>
    obtain ⟨t, rfl, hagain⟩ := h.tail_of_quote
    obtain ⟨t, rfl, hrest⟩ := hagain.tail_of_quote
    obtain ⟨hsame, halike⟩ := ih hrest
    rw [hbody] at hsame halike
    simp only [quotedBody, if_true]
    exact ⟨congrArg ('"' :: ·) hsame, halike⟩
  | case5 d rest hd =>
    obtain ⟨t, rfl, hbehind⟩ := h.tail_of_quote
    cases t with
    | nil => cases hbehind.head?_eq
    | cons d' t =>
      obtain rfl : d = d' := Option.some.inj hbehind.head?_eq
      simp only [quotedBody, if_true, if_neg hd]
      exact ⟨trivial, hbehind⟩
  | case6 c d rest hc body behind hbody ih =>
    obtain ⟨t, rfl, hrest⟩ := h.tail_of_literal hc
    obtain ⟨hsame, halike⟩ := ih hrest
    rw [hbody] at hsame halike
    cases t with
    | nil => cases hrest.head?_eq
    | cons d' t =>
      simp only [quotedBody, if_neg hc]
      exact ⟨congrArg (c :: ·) hsame, halike⟩

/-! ### Symbols -/

/-- The symbol at the front is the same, and what lies behind it is alike. -/
theorem span_symbol (h : BoundAlike R false s t) {symbol : Symbol} {behind : List Char}
    (hs : symbolSpan? c s = some (symbol, behind)) :
    ∃ behind', symbolSpan? c t = some (symbol, behind') ∧ BoundAlike R false behind behind' := by
  by_cases hc : c = '<' ∨ c = '>'
  · -- the only symbols that take in another character
    cases s with
    | nil =>
      obtain rfl := h.eq_nil
      refine ⟨behind, hs, ?_⟩
      rcases hc with rfl | rfl <;>
      · simp only [symbolSpan?, Option.some.injEq, Prod.mk.injEq] at hs
        exact hs.2 ▸ h
    | cons d s =>
      cases t with
      | nil => cases h.head?_eq
      | cons d' t =>
        obtain rfl : d = d' := Option.some.inj h.head?_eq
        have htail (hname : isNameChar d = false) (hquote : d ≠ '"') : BoundAlike R false s t := by
          obtain ⟨t', heq, htail⟩ := h.tail_of_ne hname hquote
          exact (List.cons.inj heq).2 ▸ htail
        rcases hc with rfl | rfl
        · simp only [symbolSpan?_less] at hs ⊢
          split_ifs at hs ⊢ with h₁ h₂ <;> obtain ⟨rfl, rfl⟩ := Prod.mk.inj (Option.some.inj hs)
          · exact ⟨t, rfl, htail (by rw [h₁]; decide +kernel) (by rw [h₁]; decide)⟩
          · exact ⟨t, rfl, htail (by rw [h₂]; decide +kernel) (by rw [h₂]; decide)⟩
          · exact ⟨_, rfl, h⟩
        · simp only [symbolSpan?_greater] at hs ⊢
          split_ifs at hs ⊢ with h₁ <;> obtain ⟨rfl, rfl⟩ := Prod.mk.inj (Option.some.inj hs)
          · exact ⟨t, rfl, htail (by rw [h₁]; decide +kernel) (by rw [h₁]; decide)⟩
          · exact ⟨_, rfl, h⟩
  · refine ⟨t, ?_, ?_⟩ <;> unfold symbolSpan? at * <;> split at hs <;>
      simp_all

/-! ### Numerals and names -/

theorem ne_dollar (h : BoundAlike R false (c :: s) t) : c ≠ '$' := by
  generalize hcs : c :: s = cs at h
  cases h with
  | nil => cases hcs
  | quote h => cases hcs; decide
  | other hname hc h =>
    cases hcs
    simp only [List.mem_cons, List.not_mem_nil, or_false, not_or] at hc
    exact hc.2.1
  | kept hword h => cases hcs; exact (of_isNameChar (hword.names c (List.mem_cons_self ..))).2.2.2.2
  | address hij hend h =>
    rw [toList_address_scratchPlace] at hcs
    cases hcs
    decide

/-- Up to the first address the texts are equal. -/
theorem exists_front (h : BoundAlike R quoted s t) :
    ∃ front x y, s = front ++ x ∧ t = front ++ y ∧ (∀ c ∈ x.head?, c = 'A') ∧
      ∀ c ∈ y.head?, c = 'A' := by
  induction h with
  | nil => exact ⟨[], [], [], rfl, rfl, by simp, by simp⟩
  | @quote quoted s t _ ih =>
    obtain ⟨front, x, y, rfl, rfl, hends⟩ := ih
    exact ⟨'"' :: front, x, y, rfl, rfl, hends⟩
  | @literal c s t _ _ ih =>
    obtain ⟨front, x, y, rfl, rfl, hends⟩ := ih
    exact ⟨c :: front, x, y, rfl, rfl, hends⟩
  | @other c s t _ _ _ ih =>
    obtain ⟨front, x, y, rfl, rfl, hends⟩ := ih
    exact ⟨c :: front, x, y, rfl, rfl, hends⟩
  | @kept c word s t _ _ ih =>
    obtain ⟨front, x, y, rfl, rfl, hends⟩ := ih
    exact ⟨c :: (word ++ front), x, y, by simp, by simp, hends⟩
  | address =>
    refine ⟨[], _, _, rfl, rfl, ?_⟩
    simp [toList_address_scratchPlace]

end BoundAlike

/-- Two texts that are alike but for what is left of a word. -/
def WithinAlike (R : Nat → Nat → Prop) (s t : List Char) : Prop :=
  ∃ word s' t', s = word ++ s' ∧ t = word ++ t' ∧ (∀ c ∈ word, isNameChar c = true) ∧
    BoundAlike R false s' t'

section Within

variable {R : Nat → Nat → Prop} {c : Char} {s t : List Char}

theorem BoundAlike.within (h : BoundAlike R false s t) : WithinAlike R s t :=
  ⟨[], s, t, rfl, rfl, by simp, h⟩

/-- Either nothing is left of a word, or a character of it is next. -/
theorem WithinAlike.alike_or (h : WithinAlike R s t) :
    BoundAlike R false s t ∨ ∃ c x y, isNameChar c = true ∧ s = c :: x ∧ t = c :: y := by
  obtain ⟨word, s', t', rfl, rfl, hword, h⟩ := h
  cases word with
  | nil => exact .inl h
  | cons c word => exact .inr ⟨c, _, _, hword c (List.mem_cons_self ..), rfl, rfl⟩

theorem WithinAlike.tail (h : WithinAlike R (c :: s) (c :: t))
    (hc : isAsciiDigit c = true ∨ c ∈ ['.', 'e', 'E', '+', '-']) : WithinAlike R s t := by
  have hquote : c ≠ '"' := by
    rintro rfl
    exact absurd hc (by decide)
  have haddress : c ≠ 'A' := by
    rintro rfl
    exact absurd hc (by decide)
  obtain ⟨word, s', t', hs, ht, hword, h⟩ := h
  cases word with
  | cons d word =>
    cases hs
    cases ht
    exact ⟨word, s', t', rfl, rfl, fun e he => hword e (List.mem_cons_of_mem _ he), h⟩
  | nil =>
    cases h with
    | nil => cases hs
    | quote h => cases hs; exact absurd rfl hquote
    | other hname hc h => cases hs; cases ht; exact h.within
    | kept hkept h =>
      cases hs
      cases ht
      exact ⟨_, _, _, rfl, rfl, fun e he => hkept.names e (List.mem_cons_of_mem _ he), h⟩
    | address hij hend h =>
      rw [List.nil_append, toList_address_scratchPlace] at hs
      cases hs
      exact absurd rfl haddress

theorem WithinAlike.drop {run : List Char}
    (hrun : ∀ c ∈ run, isAsciiDigit c = true ∨ c ∈ ['.', 'e', 'E', '+', '-'])
    (h : WithinAlike R (run ++ s) (run ++ t)) : WithinAlike R s t := by
  induction run with
  | nil => exact h
  | cons c run ih =>
    exact ih (fun d hd => hrun d (List.mem_cons_of_mem _ hd)) (h.tail (hrun c (List.mem_cons_self ..)))

/-- A numeral ends in front of an address. -/
theorem numeralSpan_append_address {back : List Char} (hback : ∀ c ∈ back.head?, c = 'A')
    (front : List Char) :
    numeralSpan (front ++ back) = ((numeralSpan front).1, (numeralSpan front).2 ++ back) := by
  have hcorner : BeginsCorner back := fun c hc => by rw [hback c hc]; decide
  obtain ⟨htake, hdrop⟩ := span_append_of_head hcorner.isAsciiDigit_eq_false front
  have hexponent (rest : List Char) :
      exponentSpan (rest ++ back) = ((exponentSpan rest).1, (exponentSpan rest).2 ++ back) := by
    by_cases hrest : rest = []
    · subst hrest
      exact exponentSpan_append_of (.inl rfl) fun c hc => by rw [hback c hc]; decide
    · exact exponentSpan_append_back hcorner hrest
  simp only [numeralSpan, htake, hdrop, fractionSpan_append_back hcorner, hexponent]

/-- The numeral at the front is the same; it may end within a word. -/
theorem BoundAlike.span_numeral (h : BoundAlike R false s t) :
    (numeralSpan s).1 = (numeralSpan t).1 ∧ WithinAlike R (numeralSpan s).2 (numeralSpan t).2 := by
  have hwithin := h.within
  obtain ⟨front, x, y, rfl, rfl, hx, hy⟩ := h.exists_front
  rw [numeralSpan_append_address hx, numeralSpan_append_address hy]
  refine ⟨rfl, ?_⟩
  rw [← numeralSpan_append front, List.append_assoc, List.append_assoc] at hwithin
  exact hwithin.drop fun c hc => (numeralSpan_fst front).of_mem hc

/-- The name at the front may take in points, words and addresses; it may end within a word. -/
theorem BoundAlike.span_name (h : BoundAlike R false s t) :
    WithinAlike R (s.dropWhile continuesName) (t.dropWhile continuesName) := by
  generalize hquoted : false = quoted at h
  induction h with
  | nil => exact ⟨[], [], [], rfl, rfl, by simp, .nil false⟩
  | quote h =>
    rw [List.dropWhile_cons_of_neg (by decide), List.dropWhile_cons_of_neg (by decide)]
    exact (BoundAlike.quote (hquoted ▸ h)).within
  | literal => cases hquoted
  | @other c s t hname hc h ih =>
    cases hcontinues : continuesName c with
    | true =>
      rw [List.dropWhile_cons_of_pos hcontinues, List.dropWhile_cons_of_pos hcontinues]
      exact ih rfl
    | false =>
      rw [List.dropWhile_cons_of_neg (by simp [hcontinues]),
        List.dropWhile_cons_of_neg (by simp [hcontinues])]
      exact (BoundAlike.other hname hc h).within
  | @kept c word s t hword h ih =>
    rw [← List.cons_append, ← List.cons_append]
    by_cases hall : (c :: word).dropWhile continuesName = []
    · have hpos := List.dropWhile_eq_nil_iff.1 hall
      rw [List.dropWhile_append_of_pos hpos, List.dropWhile_append_of_pos hpos]
      exact ih rfl
    · rw [dropWhile_append_of_dropWhile hall, dropWhile_append_of_dropWhile hall]
      exact ⟨_, s, t, rfl, rfl,
        fun d hd => hword.names d ((List.dropWhile_sublist _).subset hd), h⟩
  | address hij hend h ih =>
    rw [List.dropWhile_append_of_pos fun c hc => continuesName_of_mem_address hc,
      List.dropWhile_append_of_pos fun c hc => continuesName_of_mem_address hc]
    exact ih rfl

/-- A name goes on behind a word with a point, in both texts or in none. -/
theorem BoundAlike.takeWhile_eq_nil_or (h : BoundAlike R false s t)
    (hends : ∀ c ∈ s.head?, isNameChar c = false) :
    s.takeWhile continuesName = [] ∧ t.takeWhile continuesName = [] ∨
      '.' ∈ s.takeWhile continuesName ∧ '.' ∈ t.takeWhile continuesName := by
  cases s with
  | nil =>
    obtain rfl := h.eq_nil
    exact .inl ⟨rfl, rfl⟩
  | cons c s =>
    cases t with
    | nil => cases h.head?_eq
    | cons d t =>
      obtain rfl : c = d := Option.some.inj h.head?_eq
      cases hcontinues : continuesName c with
      | false =>
        left
        rw [List.takeWhile_cons_of_neg (by simp [hcontinues]),
          List.takeWhile_cons_of_neg (by simp [hcontinues])]
        exact ⟨rfl, rfl⟩
      | true =>
        right
        obtain rfl : c = '.' := by
          by_contra hdot
          have hname := isNameChar_of_continuesName hcontinues hdot h.ne_dollar
          rw [hends c rfl] at hname
          cases hname
        rw [List.takeWhile_cons_of_pos hcontinues, List.takeWhile_cons_of_pos hcontinues]
        exact ⟨List.mem_cons_self .., List.mem_cons_self ..⟩

end Within

/-! ## Tokens that differ in addresses only -/

/-- Two tokens that formulas cannot tell apart in front of a token: the same one, addresses of related
cells, or names with points, which name nothing.  A name that is not bound is a function. -/
inductive TokenAlike (R : Nat → Nat → Prop) (next : Option Token) : Token → Token → Prop
  | same {t : Token} (hname : ∀ name, t = .name name → next = some (.symbol .openParen))
      (hsymbol : t ≠ .symbol .colon ∧ t ≠ .symbol .exclamation) : TokenAlike R next t t
  | address {i j : Nat} (hij : R i j) :
      TokenAlike R next (.name (scratchPlace i).address) (.name (scratchPlace j).address)
  | dotted {a b : String} (ha : '.' ∈ a.toList) (hb : '.' ∈ b.toList) :
      TokenAlike R next (.name a) (.name b)

/-- Two lists of tokens in front of a token that are alike one by one. -/
inductive ListAlike (R : Nat → Nat → Prop) (next : Option Token) : List Token → List Token → Prop
  | nil : ListAlike R next [] []
  | cons {t u : Token} {ts us : List Token} (ht : TokenAlike R (ts.head?.or next) t u)
      (h : ListAlike R next ts us) : ListAlike R next (t :: ts) (u :: us)

/-- Two lists of tokens that are alike, or both no formula. -/
inductive TokensAlike (R : Nat → Nat → Prop) (ts us : List Token) : Prop
  | stuck (ht : Stuck ts) (hu : Stuck us)
  | alike (h : ListAlike R none ts us)

section Tokens

variable {R : Nat → Nat → Prop} {c : Char} {s t : List Char} {a b : Token}

theorem TokensAlike.cons {ts us : List Token} (h : TokensAlike R ts us)
    (hab : TokenAlike R ts.head? a b) : TokensAlike R (a :: ts) (b :: us) := by
  cases h with
  | stuck ht hu => exact .stuck (ht.cons a) (hu.cons b)
  | alike h => exact .alike (.cons (by rwa [Option.or_none]) h)

theorem TokenAlike.of_not_name {next : Option Token} (hname : ∀ name, a ≠ .name name)
    (hsymbol : a ≠ .symbol .colon ∧ a ≠ .symbol .exclamation) : TokenAlike R next a a :=
  .same (fun name h => absurd h (hname name)) hsymbol

/-! ### Tokens within words -/

theorem nextToken_illegal (hsymbol : startsSymbol c = false) (hquote : isQuote c = false)
    (hname : continuesName c = false) (rest : List Char) : nextToken c rest = (.illegal c, rest) := by
  simp only [isQuote, Bool.or_eq_false_iff, decide_eq_false_iff_not] at hquote
  simp only [continuesName, Bool.or_eq_false_iff, decide_eq_false_iff_not] at hname
  simp [nextToken, symbolSpan?_eq_none rest hsymbol, hquote, hname]

/-- A name that ends within a word is followed by an illegal character. -/
theorem stuck_within (hc : isNameChar c = true) (hname : continuesName c = false)
    (rest : List Char) : Stuck (tokensOf (c :: rest)) := by
  obtain ⟨hblank, hsymbol, hquote, -⟩ := of_isNameChar hc
  rw [tokensOf_cons rest hblank, nextToken_illegal hsymbol hquote hname]
  exact .illegal (List.mem_cons_self ..)

/-- A number that ends within a word is followed by no symbol. -/
theorem stuck_number (hc : isNameChar c = true) (x : Float) (rest : List Char) :
    Stuck (.number x :: tokensOf (c :: rest)) := by
  obtain ⟨hblank, hsymbol, -⟩ := of_isNameChar hc
  have hnext (symbol : Symbol) : (nextToken c rest).1 ≠ .symbol symbol := by
    intro heq
    have hlexes : Lexes (c :: rest) [.symbol symbol] _ := .cons hblank (Prod.ext heq rfl) (.nil _)
    obtain ⟨mid, htext, -⟩ := hlexes.exists_symbol
    obtain ⟨d, more, hcons⟩ := List.exists_cons_of_ne_nil symbol.text_ne_nil
    rw [hcons] at htext
    cases htext
    have := symbol.startsSymbol_of_mem c (hcons ▸ List.mem_cons_self ..)
    rw [hsymbol] at this
    cases this
  rw [tokensOf_cons rest hblank]
  refine .number fun hchain => ?_
  rw [List.isChain_cons_cons] at hchain
  obtain ⟨symbol, heq⟩ := hchain.1 ⟨x, rfl⟩
  exact hnext symbol heq

/-- Tokens behind a number. -/
theorem WithinAlike.number (h : WithinAlike R s t)
    (ih : BoundAlike R false s t → TokensAlike R (tokensOf s) (tokensOf t)) (x : Float) :
    TokensAlike R (.number x :: tokensOf s) (.number x :: tokensOf t) := by
  rcases h.alike_or with h | ⟨c, x', y', hc, rfl, rfl⟩
  · exact (ih h).cons (.of_not_name (by simp) (by simp))
  · exact .stuck (stuck_number hc x _) (stuck_number hc x _)

/-- Tokens behind a name. -/
theorem WithinAlike.name (h : WithinAlike R s t) (hs : ∀ c ∈ s.head?, continuesName c = false)
    (ih : BoundAlike R false s t → TokensAlike R (tokensOf s) (tokensOf t))
    (hab : BoundAlike R false s t → TokenAlike R (tokensOf s).head? a b) :
    TokensAlike R (a :: tokensOf s) (b :: tokensOf t) := by
  rcases h.alike_or with h | ⟨c, x, y, hc, rfl, rfl⟩
  · exact (ih h).cons (hab h)
  · have hname := hs c rfl
    exact .stuck ((stuck_within hc hname x).cons a) ((stuck_within hc hname y).cons b)

/-! ### Names -/

theorem nameToken_of_isTruthWord {letters : List Char} (h : IsTruthWord letters) :
    ∃ b, nameToken letters = .boolean b := by
  unfold nameToken
  rcases h with h | h <;> rw [h]
  · exact ⟨true, rfl⟩
  · exact ⟨false, rfl⟩

theorem nameToken_of_not_isTruthWord {letters : List Char} (h : ¬ IsTruthWord letters) :
    nameToken letters = .name (String.ofList (letters.map Char.toUpper)) := by
  have heq {word : String} (hword : String.ofList (letters.map Char.toUpper) = word) :
      letters.map Char.toUpper = word.toList := by rw [← hword, String.toList_ofList]
  unfold nameToken
  split
  · next hword => exact absurd (.inl (heq hword)) h
  · next hword => exact absurd (.inr (heq hword)) h
  · rfl

theorem nameToken_of_dot {letters : List Char} (h : '.' ∈ letters) :
    ∃ name, nameToken letters = .name name ∧ '.' ∈ name.toList := by
  have hdot : '.' ∈ letters.map Char.toUpper := List.mem_map.2 ⟨'.', h, by decide⟩
  refine ⟨_, nameToken_of_not_isTruthWord ?_, by rwa [String.toList_ofList]⟩
  rintro (heq | heq) <;>
  · rw [heq] at hdot
    exact absurd hdot (by decide)

theorem nameToken_address (n : Nat) :
    nameToken (scratchPlace n).address.toList = .name (scratchPlace n).address := by
  have hupper : (scratchPlace n).address.toList.map Char.toUpper =
      (scratchPlace n).address.toList := by
    rw [List.map_congr_left fun c hc => toUpper_of_mem_address hc]
    exact List.map_id' _
  rw [nameToken_of_not_isTruthWord, hupper, String.ofList_toList]
  rintro (heq | heq) <;>
  · rw [hupper, toList_address_scratchPlace] at heq
    cases heq

theorem tokensOf_name (hc : startsName c = true) (rest : List Char) :
    tokensOf (c :: rest) = nameToken (c :: rest.takeWhile continuesName) ::
      tokensOf (rest.dropWhile continuesName) := by
  have hbegins : beginsName c rest = true := by simp [beginsName, hc]
  rw [tokensOf_cons rest (isBlank_eq_false_of_continuesName (continuesName_of_beginsName hbegins)),
    nextToken_name hbegins]

/-- Tokens from an address on. -/
theorem tokensAlike_address {i j : Nat} (hij : R i j) (hends : ∀ c ∈ s.head?, isNameChar c = false)
    (h : BoundAlike R false s t)
    (ih : ∀ s' t', s'.length ≤ s.length → BoundAlike R false s' t' →
      TokensAlike R (tokensOf s') (tokensOf t')) :
    TokensAlike R (tokensOf ((scratchPlace i).address.toList ++ s))
      (tokensOf ((scratchPlace j).address.toList ++ t)) := by
  have htokens (n : Nat) (rest : List Char) :
      tokensOf ((scratchPlace n).address.toList ++ rest) =
        nameToken ((scratchPlace n).address.toList ++ rest.takeWhile continuesName) ::
          tokensOf (rest.dropWhile continuesName) := by
    have hdigits : ∀ c ∈ Nat.toDigits 10 (n + 1), continuesName c = true := fun c hc =>
      continuesName_of_mem_address (toList_address_scratchPlace n ▸ List.mem_cons_of_mem _ hc)
    rw [toList_address_scratchPlace, List.cons_append, tokensOf_name (by decide),
      List.takeWhile_append_of_pos hdigits, List.dropWhile_append_of_pos hdigits]
    rfl
  rw [htokens, htokens]
  refine h.span_name.name (head?_dropWhile s) (ih _ _ (length_dropWhile_le _ s)) fun _ => ?_
  obtain ⟨hs, ht⟩ | ⟨hs, ht⟩ := h.takeWhile_eq_nil_or hends
  · rw [hs, ht, List.append_nil, List.append_nil, nameToken_address, nameToken_address]
    exact .address hij
  · obtain ⟨a, ha, hdot⟩ := nameToken_of_dot (List.mem_append_right _ hs)
    obtain ⟨b, hb, hdot'⟩ := nameToken_of_dot (List.mem_append_right _ ht)
    rw [ha, hb]
    exact .dotted hdot hdot'

theorem head?_tokensOf_openParen (h : (s.dropWhile isBlank).head? = some '(') :
    (tokensOf s).head? = some (.symbol .openParen) := by
  cases hdrop : s.dropWhile isBlank with
  | nil => rw [hdrop] at h; cases h
  | cons c rest =>
    rw [hdrop] at h
    cases h
    rw [tokensOf_of_dropWhile hdrop]
    rfl

/-- A word that is not bound is a truth value or the name of a function. -/
theorem KeptWord.tokenAlike {word : List Char} (h : KeptWord (c :: word) s)
    (hc : startsName c = true) :
    TokenAlike R (tokensOf s).head? (nameToken (c :: word)) (nameToken (c :: word)) := by
  have hdigit : isAsciiDigit c = false := by
    simp only [startsName, Bool.or_eq_true, decide_eq_true_eq] at hc
    rcases hc with hc | rfl
    · exact isAsciiDigit_eq_false_of_letter hc
    · decide
  refine .same (fun name hname => ?_) ?_
  · rcases h.kind with hkind | hparen | htruth
    · rw [List.head?_cons, Option.any_some, hdigit] at hkind
      cases hkind
    · exact head?_tokensOf_openParen hparen
    · obtain ⟨b, hb⟩ := nameToken_of_isTruthWord htruth
      rw [hb] at hname
      cases hname
  · rcases nameToken_cases (c :: word) with ⟨b, hb⟩ | hname
    · rw [hb]
      simp
    · rw [hname]
      simp

/-- Tokens from a word on that is the name of a function or a truth value. -/
theorem tokensAlike_kept {word : List Char} (hword : KeptWord (c :: word) s)
    (hc : startsName c = true) (h : BoundAlike R false s t)
    (ih : ∀ s' t', s'.length ≤ s.length → BoundAlike R false s' t' →
      TokensAlike R (tokensOf s') (tokensOf t')) :
    TokensAlike R (tokensOf (c :: (word ++ s))) (tokensOf (c :: (word ++ t))) := by
  rw [tokensOf_name hc, tokensOf_name hc]
  by_cases hall : word.dropWhile continuesName = []
  · have hpos := List.dropWhile_eq_nil_iff.1 hall
    simp only [List.takeWhile_append_of_pos hpos, List.dropWhile_append_of_pos hpos]
    refine h.span_name.name (head?_dropWhile s) (ih _ _ (length_dropWhile_le _ s)) fun _ => ?_
    obtain ⟨hs, ht⟩ | ⟨hs, ht⟩ := h.takeWhile_eq_nil_or hword.ends
    · have hdrop := List.takeWhile_append_dropWhile (p := continuesName) (l := s)
      rw [hs, List.nil_append] at hdrop
      rw [hs, ht, List.append_nil, hdrop]
      exact hword.tokenAlike hc
    · obtain ⟨a, ha, hdot⟩ := nameToken_of_dot
        (List.mem_cons_of_mem c (List.mem_append_right word hs))
      obtain ⟨b, hb, hdot'⟩ := nameToken_of_dot
        (List.mem_cons_of_mem c (List.mem_append_right word ht))
      rw [ha, hb]
      exact .dotted hdot hdot'
  · -- the name ends within the word
    simp only [takeWhile_append_of_dropWhile hall, dropWhile_append_of_dropWhile hall]
    obtain ⟨d, more, hmore⟩ := List.exists_cons_of_ne_nil hall
    have hd : continuesName d = false := head?_dropWhile word d (by rw [hmore]; rfl)
    have hname : isNameChar d = true := by
      have hmem : d ∈ word.dropWhile continuesName := hmore ▸ List.mem_cons_self ..
      exact hword.names d (List.mem_cons_of_mem c ((List.dropWhile_sublist _).subset hmem))
    rw [hmore]
    exact .stuck ((stuck_within hname hd _).cons _) ((stuck_within hname hd _).cons _)

/-- Tokens from a numeral on. -/
theorem tokensAlike_numeral (hc : (isAsciiDigit c || c = '.') = true)
    (h : BoundAlike R false (c :: s) (c :: t))
    (ih : ∀ s' t', s'.length ≤ s.length → BoundAlike R false s' t' →
      TokensAlike R (tokensOf s') (tokensOf t')) :
    TokensAlike R (tokensOf (c :: s)) (tokensOf (c :: t)) := by
  have hblank : isBlank c = false := by
    refine isBlank_eq_false_of_continuesName ?_
    simp only [Bool.or_eq_true, decide_eq_true_eq] at hc
    rcases hc with hc | rfl
    · simp [continuesName, hc]
    · decide
  obtain ⟨hnumeral, hwithin⟩ := h.span_numeral
  rw [tokensOf_cons s hblank, tokensOf_cons t hblank, nextToken_digit s hc, nextToken_digit t hc,
    ← hnumeral]
  cases readNumber? (numeralSpan (c :: s)).1 with
  | none => exact .stuck (.illegal (List.mem_cons_self ..)) (.illegal (List.mem_cons_self ..))
  | some x => exact hwithin.number (ih _ _ (numeralSpan_length_le hc)) x

theorem startsSymbol_of_symbolSpan? (h : symbolSpan? c s = none) : startsSymbol c = false := by
  rw [startsSymbol, decide_eq_false_iff_not]
  intro hc
  unfold symbolSpan? at h
  fin_cases hc <;> simp at h <;> split at h <;> cases h

/-- Tokens from a character on that is in no name. -/
theorem tokensAlike_other (hname : isNameChar c = false) (hc : c ∉ ['"', '$', ':', '!'])
    (h : BoundAlike R false s t)
    (ih : ∀ s' t', s'.length ≤ s.length → BoundAlike R false s' t' →
      TokensAlike R (tokensOf s') (tokensOf t')) :
    TokensAlike R (tokensOf (c :: s)) (tokensOf (c :: t)) := by
  simp only [List.mem_cons, List.not_mem_nil, or_false, not_or] at hc
  by_cases hblank : isBlank c = true
  · rw [tokensOf_blank_cons hblank, tokensOf_blank_cons hblank]
    exact ih s t le_rfl h
  · rw [Bool.not_eq_true] at hblank
    by_cases hnumeral : (isAsciiDigit c || c = '.') = true
    · exact tokensAlike_numeral hnumeral (.other hname (by simp [hc]) h) ih
    · simp only [Bool.or_eq_true, not_or, decide_eq_true_eq] at hnumeral
      rw [tokensOf_cons s hblank, tokensOf_cons t hblank]
      cases hsymbol : symbolSpan? c s with
      | some span =>
        obtain ⟨symbol, behind⟩ := span
        obtain ⟨behind', hsymbol', halike⟩ := h.span_symbol hsymbol
        have hne : symbol ≠ .colon ∧ symbol ≠ .exclamation := by
          have htext := symbolSpan?_eq_some hsymbol
          constructor <;>
          · rintro rfl
            cases htext
            exact absurd hc (by decide)
        simp only [nextToken, hsymbol, hsymbol']
        exact (ih _ _ (symbolSpan?_length_le hsymbol) halike).cons
          (.of_not_name (by simp) (by simpa using hne))
      | none =>
        by_cases hsingle : c = '\''
        · subst hsingle
          exact .stuck (.quotedName (List.mem_cons_self ..)) (.quotedName (List.mem_cons_self ..))
        · have hquote : isQuote c = false := by simp [isQuote, hc, hsingle]
          have hcontinues : continuesName c = false := by
            rw [← Bool.not_eq_true]
            intro hcontinues
            rw [isNameChar_of_continuesName hcontinues (by simpa using hnumeral.2) hc.2.1] at hname
            cases hname
          have hstarts := startsSymbol_of_symbolSpan? hsymbol
          rw [nextToken_illegal hstarts hquote hcontinues, nextToken_illegal hstarts hquote hcontinues]
          exact .stuck (.illegal (List.mem_cons_self ..)) (.illegal (List.mem_cons_self ..))

theorem BoundAlike.tokensAlike (h : BoundAlike R false s t) :
    TokensAlike R (tokensOf s) (tokensOf t) := by
  induction hn : s.length using Nat.strong_induction_on generalizing s t with
  | _ n ih =>
    replace ih : ∀ s' t', s'.length < s.length → BoundAlike R false s' t' →
        TokensAlike R (tokensOf s') (tokensOf t') := fun s' t' hlt h => ih _ (hn ▸ hlt) h rfl
    generalize hquoted : false = quoted at h
    cases h with
    | nil =>
      rw [tokensOf_nil]
      exact .alike .nil
    | @quote quoted s t h =>
      subst hquoted
      obtain ⟨hbody, halike⟩ := h.span_literal
      have hblank : isBlank '"' = false := by decide +kernel
      rw [tokensOf_cons s hblank, tokensOf_cons t hblank, nextToken_quote, nextToken_quote, ← hbody]
      have hlt := quotedBody_length_le '"' s
      exact (ih _ _ (by rw [List.length_cons]; omega) halike).cons (.of_not_name (by simp) (by simp))
    | literal => cases hquoted
    | @other c s t hname hc h =>
      exact tokensAlike_other hname hc h fun s' t' hle => ih s' t' (Nat.lt_succ_of_le hle)
    | @kept c word s t hword h =>
      have hlen : s.length ≤ (word ++ s).length := by rw [List.length_append]; omega
      by_cases hdigit : isAsciiDigit c = true
      · exact tokensAlike_numeral (by simp [hdigit]) (.kept hword h)
          fun s' t' hle => ih s' t' (Nat.lt_succ_of_le hle)
      · by_cases hstarts : startsName c = true
        · exact tokensAlike_kept hword hstarts h
            fun s' t' hle => ih s' t' (Nat.lt_succ_of_le (hle.trans hlen))
        · have hname := hword.names c (List.mem_cons_self ..)
          have hcontinues : continuesName c = false := by
            obtain ⟨-, -, -, hdot, hdollar⟩ := of_isNameChar hname
            simp [continuesName, hstarts, hdigit, hdot, hdollar]
          exact .stuck (stuck_within hname hcontinues _) (stuck_within hname hcontinues _)
    | @address i j s t hij hends h =>
      refine tokensAlike_address hij hends h fun s' t' hle => ih s' t' ?_
      rw [toList_address_scratchPlace, List.length_append, List.length_cons]
      omega

end Tokens

end SheetPress
