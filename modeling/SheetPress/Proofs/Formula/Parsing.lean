import SheetPress.Proofs.Formula.Grammar

/-!
# Parsing what the grammar derives

The parser reads every phrase that the grammar derives, if the token behind it cannot continue it, so
parser and grammar agree.

* `reads_iff_derives` — the parser takes a phrase off the front of its tokens exactly if the grammar
  derives that phrase, provided that the token behind it cannot continue it.
* `parseTokens_eq_ok_iff` — a whole list of tokens is read as an expression exactly if the grammar
  derives it, a leading equals sign apart.
-/

namespace SheetPress

/-! ## Where a phrase ends -/

/-- How tightly a symbol binds what stands in front of it. -/
def Symbol.tightness : Symbol → Nat
  | .closeParen | .comma => 0
  | .equals | .notEqual | .less | .greater | .lessEqual | .greaterEqual => 1
  | .ampersand => 2
  | .plus | .minus => 3
  | .asterisk | .slash => 4
  | .caret => 5
  | .percent => 6
  | .openParen | .colon | .exclamation => 7

/-- The least tightness of the symbols that continue a phrase. -/
def Phrase.tightness : Phrase → Nat
  | chain level => 5 - level.height
  | signed | power => 5
  | percented => 6
  | primary => 7

/-- The tokens do not go on with a symbol that would continue a phrase of a kind in front of them. -/
def Stops (phrase : Phrase) (tokens : List Token) : Prop :=
  ∀ symbol more, tokens = .symbol symbol :: more → symbol.tightness < phrase.tightness

theorem stops_nil (phrase : Phrase) : Stops phrase [] := by
  intro symbol more h
  cases h

theorem stops_symbol {phrase : Phrase} (symbol : Symbol) (more : List Token)
    (h : symbol.tightness < phrase.tightness) : Stops phrase (.symbol symbol :: more) := by
  intro symbol' more' heq
  cases heq
  exact h

theorem Stops.mono {phrase phrase' : Phrase} {tokens : List Token} (h : Stops phrase tokens)
    (hle : phrase.tightness ≤ phrase'.tightness) : Stops phrase' tokens :=
  fun symbol more heq => (h symbol more heq).trans_le hle

theorem Level.tightness_operand (level : Level) :
    (Phrase.chain level).tightness < level.operand.tightness := by
  cases level <;> decide

theorem Level.tightness_of_operator? {level : Level} {symbol : Symbol} {op : BinaryOp}
    (h : level.operator? symbol = some op) :
    symbol.tightness = (Phrase.chain level).tightness := by
  cases level <;> cases symbol <;> first | rfl | cases h

/-- The symbols that phrases of a kind begin with. -/
def Phrase.opens : Phrase → Symbol → Bool
  | chain _, symbol | signed, symbol => symbol = .openParen || symbol = .minus || symbol = .plus
  | power, symbol | percented, symbol | primary, symbol => symbol = .openParen

theorem Level.opens_operand (level : Level) (symbol : Symbol) :
    level.operand.opens symbol = (Phrase.chain level).opens symbol := by
  cases level <;> rfl

theorem Derives.exists_cons {phrase : Phrase} {ts : List Token} {e : Expr}
    (h : Derives phrase ts e) :
    ∃ t us, ts = t :: us ∧ ∀ symbol, t = .symbol symbol → phrase.opens symbol = true := by
  induction h with
  | number x => exact ⟨_, _, rfl, by simp⟩
  | text s => exact ⟨_, _, rfl, by simp⟩
  | boolean b => exact ⟨_, _, rfl, by simp⟩
  | reference hlead hbody =>
    cases hlead <;> cases hbody <;> exact ⟨_, _, rfl, by simp⟩
  | call name args => exact ⟨_, _, rfl, by simp⟩
  | group h => exact ⟨_, _, rfl, by simp [Phrase.opens]⟩
  | unmarked h ih => exact ih
  | percent h ih =>
    obtain ⟨t, us, rfl, ht⟩ := ih
    exact ⟨t, _, rfl, ht⟩
  | base h ih => exact ih
  | power hl hr ihl =>
    obtain ⟨t, us, rfl, ht⟩ := ihl
    exact ⟨t, _, rfl, ht⟩
  | unsigned h ih =>
    obtain ⟨t, us, rfl, ht⟩ := ih
    refine ⟨t, _, rfl, fun symbol heq => ?_⟩
    have : symbol = .openParen := by simpa [Phrase.opens] using ht symbol heq
    simp [Phrase.opens, this]
  | negate h => exact ⟨_, _, rfl, by simp [Phrase.opens]⟩
  | plus h => exact ⟨_, _, rfl, by simp [Phrase.opens]⟩
  | @operand level ts e h ih =>
    obtain ⟨t, us, rfl, ht⟩ := ih
    refine ⟨t, _, rfl, fun symbol heq => ?_⟩
    rw [← level.opens_operand symbol]
    exact ht symbol heq
  | chain hop hl hr ihl =>
    obtain ⟨t, us, rfl, ht⟩ := ihl
    exact ⟨t, _, rfl, ht⟩

/-! ## Parts that the parser reads -/

theorem parsePercents_of_stops {operand : Expr} {tokens : List Token}
    (h : Stops .percented tokens) : Reads (parsePercents operand tokens) operand tokens := by
  rw [parsePercents.eq_def]
  split
  · exact absurd (h _ _ rfl) (by decide)
  · exact reads_ok.2 ⟨rfl, rfl⟩

theorem parseChain_of_stops {level : Level} {left : Expr} {tokens : List Token}
    (h : Stops (.chain level) tokens) : Reads (parseChain level left tokens) left tokens := by
  rw [parseChain.eq_def]
  split
  · rename_i symbol more
    split
    · rename_i op hop
      have := h symbol more rfl
      rw [Level.tightness_of_operator? hop] at this
      exact absurd this (lt_irrefl _)
    · exact reads_ok.2 ⟨rfl, rfl⟩
  · exact reads_ok.2 ⟨rfl, rfl⟩

theorem parseSheetRef_of_body {sheet : String} {body rest : List Token} {e : Expr}
    (h : ReferenceBody (some sheet) body e) (hrest : Stops .primary rest) :
    Reads (parseSheetRef sheet (body ++ rest)) e rest := by
  cases h with
  | @cell name ref href =>
    show Reads (parseSheetRef sheet (.name name :: rest)) _ _
    rw [parseSheetRef]
    · exact reads_map.2 ⟨ref, href, rfl, rfl⟩
    · rintro more rfl
      exact absurd (hrest _ _ rfl) (by decide)
  | @range first last a b ha hb =>
    refine reads_map.2 ⟨(.range (some sheet) a b, ⟨rest, by simp⟩), ?_, rfl, rfl⟩
    exact (reads_parseRange.2
      ⟨last, rfl, rangeRef_eq_ok_iff.2 (Or.inr ⟨a, b, ha, hb, rfl⟩)⟩).2
  | @columns first last a b ha hb =>
    refine reads_map.2 ⟨(.columns (some sheet) a b, ⟨rest, by simp⟩), ?_, rfl, rfl⟩
    exact (reads_parseRange.2
      ⟨last, rfl, rangeRef_eq_ok_iff.2 (Or.inl ⟨a, b, ha, hb, rfl⟩)⟩).2
  | @rows first last ha hb =>
    refine reads_map.2 ⟨(.rows (some sheet) (clampNat32 first) (clampNat32 last),
      ⟨rest, by simp⟩), ?_, rfl, rfl⟩
    exact (reads_parseRows.2 ⟨last, rfl, rowsRef_eq_ok_iff.2 ⟨ha, hb, rfl⟩⟩).2

theorem parsePrimary_of_reference {sheet : Option String} {lead body rest : List Token}
    {e : Expr} (hlead : SheetPrefix sheet lead) (hbody : ReferenceBody sheet body e)
    (hrest : Stops .primary rest) : Reads (parsePrimary (lead ++ body ++ rest)) e rest := by
  cases hlead with
  | name sheet =>
    show Reads (parsePrimary (.name sheet :: .symbol .exclamation :: (body ++ rest))) e rest
    rw [parsePrimary]
    exact (parseSheetRef_of_body hbody hrest).bind fun _ => reads_ok.2 ⟨rfl, rfl⟩
  | quoted sheet =>
    show Reads (parsePrimary (.quotedName sheet :: .symbol .exclamation :: (body ++ rest))) e rest
    rw [parsePrimary]
    refine (reads_expectSymbol.2 rfl).bind (a := ()) fun _ => ?_
    exact (parseSheetRef_of_body hbody hrest).bind fun _ => reads_ok.2 ⟨rfl, rfl⟩
  | none =>
    cases hbody with
    | @cell name ref href =>
      show Reads (parsePrimary (.name name :: rest)) _ _
      have hnot : ∀ symbol more, rest = .symbol symbol :: more → symbol.tightness ≠ 7 :=
        fun symbol more heq => (hrest symbol more heq).ne
      rw [parsePrimary]
      · rw [href]
        exact reads_ok.2 ⟨rfl, rfl⟩
      · rintro more rfl
        exact hnot _ _ rfl rfl
      · rintro more rfl
        exact hnot _ _ rfl rfl
      · rintro more rfl
        exact hnot _ _ rfl rfl
      · rintro more rfl
        exact hnot _ _ rfl rfl
    | @range first last a b ha hb =>
      show Reads (parsePrimary (.name first :: .symbol .colon :: .name last :: rest)) _ _
      rw [parsePrimary]
      refine Reads.bind (a := .range none a b) (m := rest) ?_ fun _ => reads_ok.2 ⟨rfl, rfl⟩
      exact reads_parseRange.2 ⟨last, rfl, rangeRef_eq_ok_iff.2 (Or.inr ⟨a, b, ha, hb, rfl⟩)⟩
    | @columns first last a b ha hb =>
      show Reads (parsePrimary (.name first :: .symbol .colon :: .name last :: rest)) _ _
      rw [parsePrimary]
      refine Reads.bind (a := .columns none a b) (m := rest) ?_ fun _ => reads_ok.2 ⟨rfl, rfl⟩
      exact reads_parseRange.2 ⟨last, rfl, rangeRef_eq_ok_iff.2 (Or.inl ⟨a, b, ha, hb, rfl⟩)⟩
    | @rows first last ha hb =>
      show Reads (parsePrimary (.number first :: .symbol .colon :: .number last :: rest)) _ _
      rw [parsePrimary]
      refine Reads.bind (m := rest) ?_ fun _ => reads_ok.2 ⟨rfl, rfl⟩
      exact reads_parseRows.2 ⟨last, rfl, rowsRef_eq_ok_iff.2 ⟨ha, hb, rfl⟩⟩

/-! ## Phrases that the parser reads -/

/-- What it takes that the parser of a kind of phrase reads the tokens `ts` as `e`, whatever comes
behind them.  Percent signs and the operators of a chain group to the left, so the parser has them
still before it when it has read the first operand, and the statement speaks of what it makes of the
rest. -/
def Phrase.ReadsAs (phrase : Phrase) (ts : List Token) (e : Expr) : Prop :=
  match phrase with
  | .primary => ∀ rest, Stops .primary rest → Reads (parsePrimary (ts ++ rest)) e rest
  | .percented => ∀ rest e' rest', Stops .primary rest → Reads (parsePercents e rest) e' rest' →
      ∃ operand mid, Reads (parsePrimary (ts ++ rest)) operand mid ∧
        Reads (parsePercents operand mid) e' rest'
  | .power => ∀ rest, Stops .power rest → Reads (parsePower (ts ++ rest)) e rest
  | .signed => ∀ rest, Stops .signed rest → Reads (parseUnary (ts ++ rest)) e rest
  | .chain level => ∀ rest e' rest', Stops level.operand rest →
      Reads (parseChain level e rest) e' rest' → Reads (parseLevel level (ts ++ rest)) e' rest'

theorem Phrase.ReadsAs.level {level : Level} {ts rest : List Token} {e : Expr}
    (h : (Phrase.chain level).ReadsAs ts e) (hrest : Stops (.chain level) rest) :
    Reads (parseLevel level (ts ++ rest)) e rest :=
  h rest e rest (hrest.mono level.tightness_operand.le) (parseChain_of_stops hrest)

theorem Phrase.ReadsAs.operand {level : Level} {ts rest : List Token} {e : Expr}
    (h : level.operand.ReadsAs ts e) (hrest : Stops level.operand rest) :
    Reads (parseOperand level (ts ++ rest)) e rest := by
  rw [parseOperand]
  cases level with
  | product => exact h rest hrest
  | comparison => exact Phrase.ReadsAs.level h hrest
  | concatenation => exact Phrase.ReadsAs.level h hrest
  | sum => exact Phrase.ReadsAs.level h hrest

theorem parseArguments_of_parts {parts : List (List Token × Expr)} {rest : List Token}
    (hne : parts ≠ [])
    (h : ∀ part ∈ parts, (Phrase.chain .comparison).ReadsAs part.1 part.2) :
    Reads (parseArguments (commaSeparated (parts.map (·.1)) ++ .symbol .closeParen :: rest))
      (parts.map (·.2)) rest := by
  induction parts with
  | nil => exact absurd rfl hne
  | cons part parts ih =>
    have hpart := h part (List.mem_cons_self ..)
    cases parts with
    | nil =>
      have hread := hpart.level (stops_symbol .closeParen rest (by decide))
      show Reads (parseArguments (part.1 ++ .symbol .closeParen :: rest)) _ _
      rw [parseArguments]
      refine hread.bind fun _ => ?_
      exact (reads_expectSymbol.2 rfl).bind (a := ()) fun _ => reads_ok.2 ⟨rfl, rfl⟩
    | cons next parts =>
      have hmore := ih (by simp) fun p hp => h p (List.mem_cons_of_mem _ hp)
      have hread := hpart.level (stops_symbol .comma
        (commaSeparated ((next :: parts).map (·.1)) ++ .symbol .closeParen :: rest) (by decide))
      rw [List.map_cons, List.map_cons, commaSeparated_cons_cons, List.append_assoc,
        List.cons_append, parseArguments]
      refine hread.bind fun _ => ?_
      exact hmore.bind fun _ => reads_ok.2 ⟨rfl, rfl⟩

theorem parsePrimary_of_call (name : String) {args : List (List Token × Expr)}
    (hargs : ∀ arg ∈ args, Derives (.chain .comparison) arg.1 arg.2)
    (h : ∀ arg ∈ args, (Phrase.chain .comparison).ReadsAs arg.1 arg.2) (rest : List Token) :
    Reads (parsePrimary (.name name :: .symbol .openParen ::
        (commaSeparated (args.map (·.1)) ++ .symbol .closeParen :: rest)))
      (.call name (args.map (·.2))) rest := by
  cases args with
  | nil =>
    show Reads (parsePrimary (.name name :: .symbol .openParen :: .symbol .closeParen :: rest)) _ _
    rw [parsePrimary]
    exact reads_ok.2 ⟨rfl, rfl⟩
  | cons arg args =>
    rw [parsePrimary]
    · refine (parseArguments_of_parts (by simp) h).bind fun _ => ?_
      exact reads_ok.2 ⟨rfl, rfl⟩
    · -- an argument does not begin with the closing parenthesis
      intro more heq
      obtain ⟨t, us, hts, ht⟩ := (hargs arg (List.mem_cons_self ..)).exists_cons
      have hhead : (commaSeparated ((arg :: args).map (·.1))).head? = some t := by
        cases args <;> simp [commaSeparated, hts]
      have hclose : t = .symbol .closeParen := by
        have := congrArg List.head? heq
        rw [List.head?_append, hhead] at this
        exact Option.some.inj this
      exact absurd (ht _ hclose) (by decide)

/-- The parser reads each phrase of the grammar. -/
theorem Derives.readsAs {phrase : Phrase} {ts : List Token} {e : Expr} (h : Derives phrase ts e) :
    phrase.ReadsAs ts e := by
  induction h with
  | number x =>
    intro rest hrest
    show Reads (parsePrimary (.number x :: rest)) _ _
    rw [parsePrimary]
    · exact reads_ok.2 ⟨rfl, rfl⟩
    · rintro more rfl
      exact absurd (hrest _ _ rfl) (by decide)
  | text s =>
    intro rest hrest
    show Reads (parsePrimary (.text s :: rest)) _ _
    rw [parsePrimary]
    exact reads_ok.2 ⟨rfl, rfl⟩
  | boolean b =>
    intro rest hrest
    show Reads (parsePrimary (.boolean b :: rest)) _ _
    rw [parsePrimary]
    exact reads_ok.2 ⟨rfl, rfl⟩
  | reference hlead hbody =>
    intro rest hrest
    exact parsePrimary_of_reference hlead hbody hrest
  | call name args hargs ih =>
    intro rest hrest
    rw [List.cons_append, List.cons_append, List.append_assoc, List.singleton_append]
    exact parsePrimary_of_call name hargs ih rest
  | group h ih =>
    intro rest hrest
    rw [List.cons_append, List.append_assoc, List.singleton_append, parsePrimary]
    refine (ih.level (stops_symbol _ _ (by decide))).bind fun _ => ?_
    exact (reads_expectSymbol.2 rfl).bind (a := ()) fun _ => reads_ok.2 ⟨rfl, rfl⟩
  | unmarked h ih =>
    intro rest e' rest' hrest hmore
    exact ⟨_, _, ih rest hrest, hmore⟩
  | @percent ts e h ih =>
    intro rest e' rest' hrest hmore
    rw [List.append_assoc, List.singleton_append]
    refine ih _ e' rest' (stops_symbol _ _ (by decide)) ?_
    rw [parsePercents]
    obtain ⟨hle, hmore⟩ := hmore
    exact reads_map.2 ⟨_, hmore, rfl, rfl⟩
  | @base ts e h ih =>
    intro rest hrest
    obtain ⟨operand, mid, hprimary, hpercents⟩ :=
      ih rest e rest (hrest.mono (by decide)) (parsePercents_of_stops (hrest.mono (by decide)))
    rw [parsePower]
    refine hprimary.bind fun _ => hpercents.bind fun _ => ?_
    dsimp only
    split
    · exact absurd (hrest _ _ rfl) (by decide)
    · exact reads_ok.2 ⟨rfl, rfl⟩
  | @power ts us left right hl hr ihl ihr =>
    intro rest hrest
    have hcaret : Stops .percented (.symbol .caret :: (us ++ rest)) := stops_symbol _ _ (by decide)
    obtain ⟨operand, mid, hprimary, hpercents⟩ :=
      ihl _ left _ (hcaret.mono (by decide)) (parsePercents_of_stops hcaret)
    rw [List.append_assoc, List.cons_append, parsePower]
    refine hprimary.bind fun _ => hpercents.bind fun _ => ?_
    exact (ihr rest hrest).bind fun _ => reads_ok.2 ⟨rfl, rfl⟩
  | unsigned h ih =>
    intro rest hrest
    obtain ⟨t, us, rfl, ht⟩ := h.exists_cons
    rw [List.cons_append, parseUnary]
    · exact ih rest hrest
    · intro more heq
      cases heq
      exact absurd (ht _ rfl) (by decide)
    · intro more heq
      cases heq
      exact absurd (ht _ rfl) (by decide)
  | negate h ih =>
    intro rest hrest
    rw [List.cons_append, parseUnary]
    exact (ih rest hrest).bind fun _ => reads_ok.2 ⟨rfl, rfl⟩
  | plus h ih =>
    intro rest hrest
    rw [List.cons_append, parseUnary]
    exact (ih rest hrest).bind fun _ => reads_ok.2 ⟨rfl, rfl⟩
  | operand h ih =>
    intro rest e' rest' hrest hmore
    exact reads_parseLevel.2 ⟨_, rest, Phrase.ReadsAs.operand ih hrest, hmore⟩
  | @chain level symbol op ts us left right hop hl hr ihl ihr =>
    intro rest e' rest' hrest hmore
    have hstops : Stops level.operand (.symbol symbol :: (us ++ rest)) :=
      stops_symbol _ _ (by rw [Level.tightness_of_operator? hop]; exact level.tightness_operand)
    rw [List.append_assoc, List.cons_append]
    refine ihl _ e' rest' hstops ?_
    rw [parseChain, hop]
    refine (Phrase.ReadsAs.operand ihr hrest).bind fun _ => ?_
    exact hmore.bind fun _ => reads_ok.2 ⟨rfl, rfl⟩

/-! ## The parser and the grammar -/

/-- The parser takes a phrase off the front of its tokens exactly if the grammar derives it, as long
as the token behind the phrase does not continue it. -/
theorem reads_iff_derives {level : Level} {tokens rest : List Token} {e : Expr}
    (hrest : Stops (.chain level) rest) :
    Reads (parseLevel level tokens) e rest ↔
      ∃ front, Derives (.chain level) front e ∧ tokens = front ++ rest := by
  constructor
  · exact (readsPhrases tokens).level
  · rintro ⟨front, hfront, rfl⟩
    exact Phrase.ReadsAs.level hfront.readsAs hrest

theorem parseTokens_eq_ok_iff {tokens : List Token} {e : Expr} :
    parseTokens tokens = .ok e ↔ Derives (.chain .comparison) (dropEquals tokens) e := by
  unfold parseTokens
  generalize dropEquals tokens = ts
  have hreads : Reads (parseLevel .comparison ts) e [] ↔ _ :=
    reads_iff_derives (stops_nil (.chain .comparison))
  simp only [List.append_nil, exists_eq_right'] at hreads
  split
  · constructor
    · intro h
      cases h
    · intro h
      obtain ⟨t, us, heq, -⟩ := h.exists_cons
      cases heq
  · rw [← hreads]
    constructor
    · intro h
      cases hp : parseLevel .comparison ts with
      | error _ => rw [hp] at h; cases h
      | ok r =>
        obtain ⟨e', rest, hrest⟩ := r
        rw [hp] at h
        cases rest with
        | nil => cases h; exact ⟨hrest, rfl⟩
        | cons found more => cases h
    · rintro ⟨hrest, hp⟩
      rw [hp]
      rfl

/-- A list of tokens is derived as at most one expression. -/
theorem Derives.unique {ts : List Token} {e e' : Expr} (h : Derives (.chain .comparison) ts e)
    (h' : Derives (.chain .comparison) ts e') : e = e' := by
  have hr := (reads_iff_derives (stops_nil _)).2 ⟨ts, h, (List.append_nil ts).symm⟩
  have hr' := (reads_iff_derives (stops_nil _)).2 ⟨ts, h', (List.append_nil ts).symm⟩
  obtain ⟨_, hr⟩ := hr
  obtain ⟨_, hr'⟩ := hr'
  rw [hr] at hr'
  cases hr'
  rfl

end SheetPress
