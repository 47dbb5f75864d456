import Mathlib
import SheetPress.Formula.Parser

/-!
# The grammar of formulas

`Derives` is the grammar that formulas are written in, as a relation between lists of tokens and
expressions.  The parser reads nothing else.

* `HoldsInPhrases.derives` — properties that phrases have because of how they are put together.
* `Reads` — what it is that a part of the parser takes off the front of its tokens.
* `readsPhrases` — what the parser takes off the front is a phrase that the grammar derives.
-/

namespace SheetPress

/-! ## Phrases -/

/-- The kinds of phrases, from the loosest to the tightest. -/
inductive Phrase where
  /-- Operands with the operators of one level between them. -/
  | chain (level : Level)
  /-- An operand with signs in front of it. -/
  | signed
  /-- An operand that may be raised to a power. -/
  | power
  /-- An operand with percent signs behind it. -/
  | percented
  | primary
  deriving DecidableEq, Repr

/-- The phrases between the operators of a level. -/
def Level.operand (level : Level) : Phrase :=
  match level.next? with
  | some tighter => .chain tighter
  | none => .signed

/-- The numbers that count rows: whole ones from one on. -/
def IsRowNumber (x : Float) : Prop := ¬ x < 1.0 ∧ isWhole x = true

/-- What stands in front of a reference to name its sheet. -/
inductive SheetPrefix : Option String → List Token → Prop
  | none : SheetPrefix none []
  | name (sheet : String) : SheetPrefix (some sheet) [.name sheet, .symbol .exclamation]
  | quoted (sheet : String) : SheetPrefix (some sheet) [.quotedName sheet, .symbol .exclamation]

/-- A reference without the name of its sheet. -/
inductive ReferenceBody (sheet : Option String) : List Token → Expr → Prop
  | cell {name : String} {ref : CellRef} (h : cellRef name = .ok ref) :
      ReferenceBody sheet [.name name] (.cell sheet ref)
  | range {first last : String} {a b : CellRef} (ha : cellRef first = .ok a)
      (hb : cellRef last = .ok b) :
      ReferenceBody sheet [.name first, .symbol .colon, .name last] (.range sheet a b)
  | columns {first last : String} {a b : ColumnRef} (ha : columnRef? first = some a)
      (hb : columnRef? last = some b) :
      ReferenceBody sheet [.name first, .symbol .colon, .name last] (.columns sheet a b)
  | rows {first last : Float} (ha : IsRowNumber first) (hb : IsRowNumber last) :
      ReferenceBody sheet [.number first, .symbol .colon, .number last]
        (.rows sheet (clampNat32 first) (clampNat32 last))

/-- Lists of tokens with commas between them. -/
def commaSeparated : List (List Token) → List Token
  | [] => []
  | [part] => part
  | part :: rest => part ++ .symbol .comma :: commaSeparated rest

theorem commaSeparated_cons_cons (part next : List Token) (rest : List (List Token)) :
    commaSeparated (part :: next :: rest) =
      part ++ .symbol .comma :: commaSeparated (next :: rest) := rfl

/-- The grammar: the tokens of a phrase and the expression that they stand for.  Chains group to the
left, a power takes a signed operand on its right, and a plus sign in front of an operand leaves no
trace. -/
inductive Derives : Phrase → List Token → Expr → Prop
  | number (x : Float) : Derives .primary [.number x] (.literal (.number x))
  | text (s : String) : Derives .primary [.text s] (.literal (.text s))
  | boolean (b : Bool) : Derives .primary [.boolean b] (.literal (.boolean b))
  | reference {sheet : Option String} {lead body : List Token} {e : Expr}
      (hlead : SheetPrefix sheet lead) (hbody : ReferenceBody sheet body e) :
      Derives .primary (lead ++ body) e
  | call (name : String) (args : List (List Token × Expr))
      (h : ∀ arg ∈ args, Derives (.chain .comparison) arg.1 arg.2) :
      Derives .primary
        (.name name :: .symbol .openParen ::
          (commaSeparated (args.map (·.1)) ++ [.symbol .closeParen]))
        (.call name (args.map (·.2)))
  | group {ts : List Token} {e : Expr} (h : Derives (.chain .comparison) ts e) :
      Derives .primary (.symbol .openParen :: (ts ++ [.symbol .closeParen])) e
  | unmarked {ts : List Token} {e : Expr} (h : Derives .primary ts e) : Derives .percented ts e
  | percent {ts : List Token} {e : Expr} (h : Derives .percented ts e) :
      Derives .percented (ts ++ [.symbol .percent]) (.unary .percent e)
  | base {ts : List Token} {e : Expr} (h : Derives .percented ts e) : Derives .power ts e
  | power {ts us : List Token} {left right : Expr} (hl : Derives .percented ts left)
      (hr : Derives .signed us right) :
      Derives .power (ts ++ .symbol .caret :: us) (.binary .power left right)
  | unsigned {ts : List Token} {e : Expr} (h : Derives .power ts e) : Derives .signed ts e
  | negate {ts : List Token} {e : Expr} (h : Derives .signed ts e) :
      Derives .signed (.symbol .minus :: ts) (.unary .negate e)
  | plus {ts : List Token} {e : Expr} (h : Derives .signed ts e) :
      Derives .signed (.symbol .plus :: ts) e
  | operand {level : Level} {ts : List Token} {e : Expr} (h : Derives level.operand ts e) :
      Derives (.chain level) ts e
  | chain {level : Level} {symbol : Symbol} {op : BinaryOp} {ts us : List Token}
      {left right : Expr} (hop : level.operator? symbol = some op)
      (hl : Derives (.chain level) ts left) (hr : Derives level.operand us right) :
      Derives (.chain level) (ts ++ .symbol symbol :: us) (.binary op left right)

/-- A primary phrase is an expression of its own. -/
theorem Derives.of_primary {level : Level} {ts : List Token} {e : Expr}
    (h : Derives .primary ts e) : Derives (.chain level) ts e := by
  have hsigned : Derives .signed ts e := .unsigned (.base (.unmarked h))
  have hproduct : Derives (.chain .product) ts e := .operand hsigned
  have hsum : Derives (.chain .sum) ts e := .operand hproduct
  have hconcatenation : Derives (.chain .concatenation) ts e := .operand hsum
  cases level with
  | product => exact hproduct
  | sum => exact hsum
  | concatenation => exact hconcatenation
  | comparison => exact .operand hconcatenation

/-! ## Properties of the tokens of phrases -/

/-- The tokens that are operands, or names of functions and sheets. -/
def Token.isOperand : Token → Bool
  | .number _ | .text _ | .boolean _ | .name _ => true
  | _ => false

/-- A property of lists of tokens that phrases have because of how they are put together: from operands
and quoted names, with symbols between them. -/
structure HoldsInPhrases (P : List Token → Prop) : Prop where
  nil : P []
  operand {t : Token} (ht : t.isOperand = true) : P [t]
  quoted (sheet : String) {ts : List Token} (h : P ts) :
    P (.quotedName sheet :: .symbol .exclamation :: ts)
  join {ts us : List Token} (symbol : Symbol) (h : P ts) (h' : P us) :
    P (ts ++ .symbol symbol :: us)

namespace HoldsInPhrases

variable {P : List Token → Prop} {ts : List Token} {e : Expr}

theorem commaSeparated (hP : HoldsInPhrases P) {parts : List (List Token)}
    (h : ∀ part ∈ parts, P part) : P (commaSeparated parts) := by
  induction parts with
  | nil => exact hP.nil
  | cons part parts ih =>
    obtain ⟨hpart, hparts⟩ := List.forall_mem_cons.1 h
    cases parts with
    | nil => exact hpart
    | cons next parts => exact hP.join .comma hpart (ih hparts)

theorem reference (hP : HoldsInPhrases P) {sheet : Option String} {lead body : List Token}
    (hlead : SheetPrefix sheet lead) (hbody : ReferenceBody sheet body e) : P (lead ++ body) := by
  have hpair {t u : Token} (ht : t.isOperand = true) (hu : u.isOperand = true) :
      P [t, .symbol .colon, u] := hP.join .colon (hP.operand ht) (hP.operand hu)
  have hbody' : P body := by
    cases hbody with
    | cell => exact hP.operand rfl
    | range => exact hpair rfl rfl
    | columns => exact hpair rfl rfl
    | rows => exact hpair rfl rfl
  cases hlead with
  | none => exact hbody'
  | name sheet => exact hP.join .exclamation (hP.operand rfl) hbody'
  | quoted sheet => exact hP.quoted sheet hbody'

theorem derives (hP : HoldsInPhrases P) {phrase : Phrase} (h : Derives phrase ts e) : P ts := by
  have hclose {ts : List Token} (symbol : Symbol) (h : P ts) : P (ts ++ [.symbol symbol]) :=
    hP.join symbol h hP.nil
  have hopen {ts : List Token} (symbol : Symbol) (h : P ts) : P (.symbol symbol :: ts) :=
    hP.join symbol hP.nil h
  induction h with
  | number x => exact hP.operand rfl
  | text s => exact hP.operand rfl
  | boolean b => exact hP.operand rfl
  | reference hlead hbody => exact hP.reference hlead hbody
  | call name args _ ih =>
    have hargs : P (SheetPress.commaSeparated (args.map (·.1))) :=
      hP.commaSeparated (List.forall_mem_map.2 ih)
    exact hP.join .openParen (hP.operand rfl) (hclose .closeParen hargs)
  | group _ ih => exact hopen .openParen (hclose .closeParen ih)
  | unmarked _ ih => exact ih
  | percent _ ih => exact hclose .percent ih
  | base _ ih => exact ih
  | power _ _ ihl ihr => exact hP.join .caret ihl ihr
  | unsigned _ ih => exact ih
  | negate _ ih => exact hopen .minus ih
  | plus _ ih => exact hopen .plus ih
  | operand _ ih => exact ih
  | @chain _ symbol _ _ _ _ _ _ _ _ ihl ihr => exact hP.join symbol ihl ihr

end HoldsInPhrases

/-! ## Names that are references -/

theorem columnRef?_eq_none_of_cellRef {name : String} {ref : CellRef} (h : cellRef name = .ok ref) :
    columnRef? name = none := by
  unfold cellRef at h
  unfold columnRef?
  split at h
  rename_i fixed text hsplit
  dsimp only at h
  split at h
  · cases h
  · split at h
    · cases h
    · rename_i hne hdigits
      rw [if_neg]
      rintro ⟨-, hall⟩
      -- a name of letters only leaves nothing for the row
      have hdrop : text.dropWhile isAsciiLetter = [] := by
        rw [List.dropWhile_eq_nil_iff]
        simpa [List.all_eq_true] using hall
      rw [hdrop] at hdigits
      exact hdigits rfl

theorem rangeRef_eq_ok_iff {sheet : Option String} {first last : String} {e : Expr} :
    rangeRef sheet first last = .ok e ↔
      (∃ a b, columnRef? first = some a ∧ columnRef? last = some b ∧ e = .columns sheet a b) ∨
        ∃ a b, cellRef first = .ok a ∧ cellRef last = .ok b ∧ e = .range sheet a b := by
  unfold rangeRef
  constructor
  · intro h
    split at h
    · rename_i a b ha hb
      cases h
      exact Or.inl ⟨a, b, ha, hb, rfl⟩
    · cases ha : cellRef first with
      | error _ => rw [ha] at h; cases h
      | ok a =>
        cases hb : cellRef last with
        | error _ => rw [ha, hb] at h; cases h
        | ok b =>
          rw [ha, hb] at h
          cases h
          exact Or.inr ⟨a, b, rfl, rfl, rfl⟩
  · rintro (⟨a, b, ha, hb, rfl⟩ | ⟨a, b, ha, hb, rfl⟩)
    · rw [ha, hb]
    · rw [columnRef?_eq_none_of_cellRef ha, ha, hb]
      rfl

theorem rowsRef_eq_ok_iff {sheet : Option String} {first last : Float} {e : Expr} :
    rowsRef sheet first last = .ok e ↔
      IsRowNumber first ∧ IsRowNumber last ∧
        e = .rows sheet (clampNat32 first) (clampNat32 last) := by
  unfold rowsRef IsRowNumber
  split
  · rename_i hbad
    constructor
    · intro h; cases h
    · rintro ⟨⟨h₁, h₂⟩, ⟨h₃, h₄⟩, -⟩
      rcases hbad with h | h | h | h
      · exact absurd h h₁
      · exact absurd h h₃
      · rw [h₂] at h; cases h
      · rw [h₄] at h; cases h
  · rename_i hgood
    simp only [not_or, Bool.not_eq_true, Bool.not_eq_false'] at hgood
    obtain ⟨h₁, h₂, h₃, h₄⟩ := hgood
    constructor
    · intro h
      cases h
      exact ⟨⟨h₁, h₃⟩, ⟨h₂, h₄⟩, rfl⟩
    · rintro ⟨-, -, rfl⟩
      rfl

/-! ## What the parser reads -/

/-- A parser that may refuse takes a result off the front of its tokens and leaves `rest`. -/
def Reads {α : Type} {P : List Token → Prop}
    (p : Except ParseError (α × { rest : List Token // P rest })) (a : α) (rest : List Token) :
    Prop :=
  ∃ h, p = .ok (a, ⟨rest, h⟩)

section Reads

variable {α β : Type} {P Q : List Token → Prop}

@[simp] theorem reads_ok {a b : α} {rest more : List Token} {h : P more} :
    Reads (P := P) (.ok (b, ⟨more, h⟩)) a rest ↔ b = a ∧ more = rest := by
  constructor
  · rintro ⟨_, h⟩
    cases h
    exact ⟨rfl, rfl⟩
  · rintro ⟨rfl, rfl⟩
    exact ⟨h, rfl⟩

@[simp] theorem reads_error {e : ParseError} {a : α} {rest : List Token} :
    Reads (P := P) (.error e) a rest ↔ False := by
  constructor
  · rintro ⟨_, h⟩
    cases h
  · exact False.elim

theorem reads_bind {p : Except ParseError (α × { rest : List Token // P rest })}
    {f : α × { rest : List Token // P rest } →
      Except ParseError (β × { rest : List Token // Q rest })}
    {b : β} {rest : List Token} :
    Reads (p >>= f) b rest ↔
      ∃ a mid, ∃ h : P mid, p = .ok (a, ⟨mid, h⟩) ∧ Reads (f (a, ⟨mid, h⟩)) b rest := by
  cases p with
  | error e =>
    constructor
    · intro h
      exact absurd h (by simp [bind, Except.bind])
    · rintro ⟨_, _, _, h, _⟩
      cases h
  | ok r =>
    obtain ⟨a, mid, hmid⟩ := r
    constructor
    · intro h
      exact ⟨a, mid, hmid, rfl, h⟩
    · rintro ⟨_, _, _, h, hf⟩
      cases h
      exact hf

/-- A parser behind one that reads `a` goes on with what that one leaves. -/
theorem Reads.bind {p : Except ParseError (α × { rest : List Token // P rest })}
    {f : α × { rest : List Token // P rest } →
      Except ParseError (β × { rest : List Token // Q rest })}
    {a : α} {b : β} {m rest : List Token} (hp : Reads p a m)
    (hf : ∀ h, Reads (f (a, ⟨m, h⟩)) b rest) : Reads (p >>= f) b rest := by
  obtain ⟨h, hp⟩ := hp
  exact reads_bind.2 ⟨a, m, h, hp, hf h⟩

theorem reads_map {γ : Type} {p : Except ParseError γ} {f : γ → α × { rest : List Token // P rest }}
    {a : α} {rest : List Token} :
    Reads (p.map f) a rest ↔ ∃ c, p = .ok c ∧ (f c).1 = a ∧ (f c).2.1 = rest := by
  cases p with
  | error e => simp [Except.map]
  | ok c =>
    simp only [Except.map, Except.ok.injEq, exists_eq_left']
    exact reads_ok

end Reads

/-! ### Parts that hold no expressions -/

theorem reads_expectSymbol {symbol : Symbol} {tokens rest : List Token} {u : Unit} :
    Reads (expectSymbol symbol tokens) u rest ↔ tokens = .symbol symbol :: rest := by
  unfold expectSymbol
  split
  · rename_i found more
    split
    · rename_i h
      subst h
      simp
    · rename_i h
      simp [h]
  · rename_i hne
    simp only [reads_error, false_iff]
    rintro rfl
    exact hne _ _ rfl

theorem reads_parseRows {sheet : Option String} {first : Float} {tokens rest : List Token}
    {e : Expr} :
    Reads (parseRows sheet first tokens) e rest ↔
      ∃ last, tokens = .number last :: rest ∧ rowsRef sheet first last = .ok e := by
  unfold parseRows
  split
  · rename_i last more
    rw [reads_map]
    constructor
    · rintro ⟨e', he, rfl, rfl⟩
      exact ⟨last, rfl, he⟩
    · rintro ⟨last', htokens, he⟩
      cases htokens
      exact ⟨e, he, rfl, rfl⟩
  · rename_i hne
    simp only [reads_error, false_iff]
    rintro ⟨last, rfl, -⟩
    exact hne _ _ rfl

theorem reads_parseRange {sheet : Option String} {first : String} {tokens rest : List Token}
    {e : Expr} :
    Reads (parseRange sheet first tokens) e rest ↔
      ∃ last, tokens = .name last :: rest ∧ rangeRef sheet first last = .ok e := by
  unfold parseRange
  split
  · rename_i last more
    rw [reads_map]
    constructor
    · rintro ⟨e', he, rfl, rfl⟩
      exact ⟨last, rfl, he⟩
    · rintro ⟨last', htokens, he⟩
      cases htokens
      exact ⟨e, he, rfl, rfl⟩
  · rename_i hne
    simp only [reads_error, false_iff]
    rintro ⟨last, rfl, -⟩
    exact hne _ _ rfl

/-! ## The parser reads only what the grammar derives -/

/-- The tokens begin with a phrase of a kind that stands for `e`, in front of `rest`. -/
def Begins (phrase : Phrase) (tokens : List Token) (e : Expr) (rest : List Token) : Prop :=
  ∃ front, Derives phrase front e ∧ tokens = front ++ rest

theorem body_of_parseSheetRef {sheet : String} {tokens rest : List Token} {e : Expr}
    (h : Reads (parseSheetRef sheet tokens) e rest) :
    ∃ body, ReferenceBody (some sheet) body e ∧ tokens = body ++ rest := by
  unfold parseSheetRef at h
  split at h
  · rename_i first more
    obtain ⟨⟨e', mid, hmid⟩, hp, rfl, rfl⟩ := reads_map.1 h
    obtain ⟨last, rfl, hrows⟩ := reads_parseRows.1 ⟨hmid, hp⟩
    obtain ⟨ha, hb, rfl⟩ := rowsRef_eq_ok_iff.1 hrows
    exact ⟨_, .rows ha hb, rfl⟩
  · exact (reads_error.1 h).elim
  · rename_i first more
    obtain ⟨⟨e', mid, hmid⟩, hp, rfl, rfl⟩ := reads_map.1 h
    obtain ⟨last, rfl, hrange⟩ := reads_parseRange.1 ⟨hmid, hp⟩
    rcases rangeRef_eq_ok_iff.1 hrange with ⟨a, b, ha, hb, rfl⟩ | ⟨a, b, ha, hb, rfl⟩
    · exact ⟨_, .columns ha hb, rfl⟩
    · exact ⟨_, .range ha hb, rfl⟩
  · obtain ⟨ref, href, rfl, rfl⟩ := reads_map.1 h
    exact ⟨_, .cell href, rfl⟩
  · exact (reads_error.1 h).elim

theorem begins_of_parsePercents {front tokens rest : List Token} {operand e : Expr}
    (hfront : Derives .percented front operand) (h : Reads (parsePercents operand tokens) e rest) :
    Begins .percented (front ++ tokens) e rest := by
  induction tokens generalizing front operand with
  | nil =>
    rw [parsePercents] at h
    · obtain ⟨rfl, rfl⟩ := reads_ok.1 h
      exact ⟨front, hfront, rfl⟩
    · intro _ h'
      cases h'
  | cons token tokens ih =>
    by_cases ht : token = .symbol .percent
    · subst ht
      rw [parsePercents] at h
      obtain ⟨⟨e', mid, hmid⟩, hp, rfl, rfl⟩ := reads_map.1 h
      have := ih (.percent hfront) ⟨hmid, hp⟩
      rwa [List.append_assoc] at this
    · rw [parsePercents] at h
      · obtain ⟨rfl, rfl⟩ := reads_ok.1 h
        exact ⟨front, hfront, rfl⟩
      · intro _ h'
        cases h'
        exact ht rfl

/-- The parsers of expressions read only phrases of the grammar off the front of some tokens. -/
structure ReadsPhrases (tokens : List Token) : Prop where
  level : ∀ {level : Level} {e : Expr} {rest : List Token},
    Reads (parseLevel level tokens) e rest → Begins (.chain level) tokens e rest
  signed : ∀ {e : Expr} {rest : List Token},
    Reads (parseUnary tokens) e rest → Begins .signed tokens e rest

theorem ReadsPhrases.operand {tokens : List Token} (h : ReadsPhrases tokens) {level : Level}
    {e : Expr} {rest : List Token} (hp : Reads (parseOperand level tokens) e rest) :
    Begins level.operand tokens e rest := by
  rw [parseOperand] at hp
  unfold Level.operand
  split at hp
  · rename_i tighter hnext
    rw [hnext]
    exact h.level hp
  · rename_i hnext
    rw [hnext]
    exact h.signed hp

theorem arguments_of_parseArguments {tokens rest : List Token} {args : List Expr}
    (ih : ∀ us : List Token, us.length ≤ tokens.length → ReadsPhrases us)
    (h : Reads (parseArguments tokens) args rest) :
    ∃ parts : List (List Token × Expr), parts ≠ [] ∧
      (∀ part ∈ parts, Derives (.chain .comparison) part.1 part.2) ∧
      args = parts.map (·.2) ∧
      tokens = commaSeparated (parts.map (·.1)) ++ .symbol .closeParen :: rest := by
  induction hn : tokens.length using Nat.strong_induction_on generalizing tokens args rest with
  | _ n IH =>
  subst hn
  rw [parseArguments] at h
  obtain ⟨arg, mid, hmid, hp, hmore⟩ := reads_bind.1 h
  obtain ⟨front, hfront, rfl⟩ := (ih tokens le_rfl).level ⟨hmid, hp⟩
  dsimp only at hmore
  split at hmore
  · rename_i _ more _
    obtain ⟨args', mid', hmid', hp', hdone⟩ := reads_bind.1 hmore
    obtain ⟨rfl, rfl⟩ := reads_ok.1 hdone
    have hlt : more.length < (front ++ Token.symbol Symbol.comma :: more).length := by
      simp only [List.length_append, List.length_cons]
      omega
    obtain ⟨parts, hne, hall, rfl, rfl⟩ :=
      IH _ hlt (fun us hus => ih us (hus.trans hlt.le)) ⟨hmid', hp'⟩ rfl
    refine ⟨(front, arg) :: parts, by simp, ?_, rfl, ?_⟩
    · intro part hpart
      rcases List.mem_cons.1 hpart with rfl | hpart
      · exact hfront
      · exact hall part hpart
    · obtain ⟨part, parts, rfl⟩ := List.exists_cons_of_ne_nil hne
      simp [commaSeparated]
  · obtain ⟨u, mid', hmid', hp', hdone⟩ := reads_bind.1 hmore
    obtain ⟨rfl, rfl⟩ := reads_ok.1 hdone
    have hclose := reads_expectSymbol.1 ⟨hmid', hp'⟩
    subst hclose
    refine ⟨[(front, arg)], by simp, ?_, rfl, by simp [commaSeparated]⟩
    intro part hpart
    rw [List.mem_singleton.1 hpart]
    exact hfront

theorem begins_of_parsePrimary {tokens rest : List Token} {e : Expr}
    (ih : ∀ us : List Token, us.length < tokens.length → ReadsPhrases us)
    (h : Reads (parsePrimary tokens) e rest) : Begins .primary tokens e rest := by
  rw [parsePrimary.eq_def] at h
  split at h
  · rename_i first more
    obtain ⟨e', mid, hmid, hp, hdone⟩ := reads_bind.1 h
    obtain ⟨rfl, rfl⟩ := reads_ok.1 hdone
    obtain ⟨last, rfl, hrows⟩ := reads_parseRows.1 ⟨hmid, hp⟩
    obtain ⟨ha, hb, rfl⟩ := rowsRef_eq_ok_iff.1 hrows
    exact ⟨_, .reference .none (.rows ha hb), rfl⟩
  · obtain ⟨rfl, rfl⟩ := reads_ok.1 h
    exact ⟨_, .number _, rfl⟩
  · obtain ⟨rfl, rfl⟩ := reads_ok.1 h
    exact ⟨_, .text _, rfl⟩
  · obtain ⟨rfl, rfl⟩ := reads_ok.1 h
    exact ⟨_, .boolean _, rfl⟩
  · rename_i sheet more
    obtain ⟨_, mid, hmid, hp, hbody⟩ := reads_bind.1 h
    obtain rfl := reads_expectSymbol.1 ⟨hmid, hp⟩
    obtain ⟨e', mid', hmid', hp', hdone⟩ := reads_bind.1 hbody
    obtain ⟨rfl, rfl⟩ := reads_ok.1 hdone
    obtain ⟨body, hbody, hmore⟩ := body_of_parseSheetRef ⟨hmid', hp'⟩
    exact ⟨_, .reference (.quoted sheet) hbody, by rw [hmore]; rfl⟩
  · rename_i sheet more
    obtain ⟨e', mid, hmid, hp, hdone⟩ := reads_bind.1 h
    obtain ⟨rfl, rfl⟩ := reads_ok.1 hdone
    obtain ⟨body, hbody, hmore⟩ := body_of_parseSheetRef ⟨hmid, hp⟩
    exact ⟨_, .reference (.name sheet) hbody, by rw [hmore]; rfl⟩
  · obtain ⟨rfl, rfl⟩ := reads_ok.1 h
    exact ⟨_, .call _ [] (by simp), rfl⟩
  · rename_i name more _
    obtain ⟨args, mid, hmid, hp, hdone⟩ := reads_bind.1 h
    obtain ⟨rfl, rfl⟩ := reads_ok.1 hdone
    obtain ⟨parts, -, hall, rfl, rfl⟩ := arguments_of_parseArguments
      (fun us hus => ih us (by simp only [List.length_cons]; omega)) ⟨hmid, hp⟩
    exact ⟨_, .call name parts hall, by simp⟩
  · rename_i first more
    obtain ⟨e', mid, hmid, hp, hdone⟩ := reads_bind.1 h
    obtain ⟨rfl, rfl⟩ := reads_ok.1 hdone
    obtain ⟨last, rfl, hrange⟩ := reads_parseRange.1 ⟨hmid, hp⟩
    rcases rangeRef_eq_ok_iff.1 hrange with ⟨a, b, ha, hb, rfl⟩ | ⟨a, b, ha, hb, rfl⟩
    · exact ⟨_, .reference .none (.columns ha hb), rfl⟩
    · exact ⟨_, .reference .none (.range ha hb), rfl⟩
  · rename_i name more _ _ _ _
    cases href : cellRef name with
    | error _ => rw [href] at h; exact (reads_error.1 h).elim
    | ok ref =>
      rw [href] at h
      obtain ⟨rfl, rfl⟩ := reads_ok.1 h
      exact ⟨_, .reference .none (.cell href), rfl⟩
  · rename_i more
    obtain ⟨e', mid, hmid, hp, hclose⟩ := reads_bind.1 h
    obtain ⟨front, hfront, rfl⟩ := (ih more (by simp)).level ⟨hmid, hp⟩
    obtain ⟨_, mid', hmid', hp', hdone⟩ := reads_bind.1 hclose
    obtain ⟨rfl, rfl⟩ := reads_ok.1 hdone
    obtain rfl := reads_expectSymbol.1 ⟨hmid', hp'⟩
    exact ⟨_, .group hfront, by simp⟩
  all_goals exact (reads_error.1 h).elim

theorem begins_of_parsePower {tokens rest : List Token} {e : Expr}
    (ih : ∀ us : List Token, us.length < tokens.length → ReadsPhrases us)
    (h : Reads (parsePower tokens) e rest) : Begins .power tokens e rest := by
  rw [parsePower] at h
  obtain ⟨primary, mid, hmid, hp, hmore⟩ := reads_bind.1 h
  obtain ⟨front, hfront, htokens⟩ := begins_of_parsePrimary ih ⟨hmid, hp⟩
  obtain ⟨left, mid', hmid', hp', hmore⟩ := reads_bind.1 hmore
  obtain ⟨front', hfront', htokens'⟩ :=
    begins_of_parsePercents (.unmarked hfront) ⟨hmid', hp'⟩
  rw [← htokens] at htokens'
  dsimp only at hmore
  split at hmore
  · rename_i _ _ more _
    obtain ⟨right, mid'', hmid'', hp'', hdone⟩ := reads_bind.1 hmore
    obtain ⟨rfl, rfl⟩ := reads_ok.1 hdone
    have hlen : more.length < tokens.length := by
      rw [htokens', List.length_append, List.length_cons]
      omega
    obtain ⟨back, hback, rfl⟩ := (ih more hlen).signed ⟨hmid'', hp''⟩
    exact ⟨_, .power hfront' hback, by rw [htokens']; simp⟩
  · obtain ⟨rfl, rfl⟩ := reads_ok.1 hmore
    exact ⟨front', .base hfront', htokens'⟩

theorem begins_of_parseUnary {tokens rest : List Token} {e : Expr}
    (ih : ∀ us : List Token, us.length < tokens.length → ReadsPhrases us)
    (h : Reads (parseUnary tokens) e rest) : Begins .signed tokens e rest := by
  rw [parseUnary.eq_def] at h
  split at h
  · rename_i more
    obtain ⟨e', mid, hmid, hp, hdone⟩ := reads_bind.1 h
    obtain ⟨rfl, rfl⟩ := reads_ok.1 hdone
    obtain ⟨front, hfront, rfl⟩ := (ih more (by simp)).signed ⟨hmid, hp⟩
    exact ⟨_, .negate hfront, rfl⟩
  · rename_i more
    obtain ⟨e', mid, hmid, hp, hdone⟩ := reads_bind.1 h
    obtain ⟨rfl, rfl⟩ := reads_ok.1 hdone
    obtain ⟨front, hfront, rfl⟩ := (ih more (by simp)).signed ⟨hmid, hp⟩
    exact ⟨_, .plus hfront, rfl⟩
  · obtain ⟨front, hfront, htokens⟩ := begins_of_parsePower ih h
    exact ⟨front, .unsigned hfront, htokens⟩

theorem begins_of_parseChain {level : Level} {front tokens rest : List Token} {left e : Expr}
    (ih : ∀ us : List Token, us.length < tokens.length → ReadsPhrases us)
    (hfront : Derives (.chain level) front left)
    (h : Reads (parseChain level left tokens) e rest) :
    Begins (.chain level) (front ++ tokens) e rest := by
  induction hn : tokens.length using Nat.strong_induction_on
    generalizing front tokens left e rest with
  | _ n IH =>
  subst hn
  rw [parseChain.eq_def] at h
  split at h
  · rename_i symbol more
    split at h
    · rename_i op hop
      obtain ⟨right, mid, hmid, hp, hmore⟩ := reads_bind.1 h
      obtain ⟨e', mid', hmid', hp', hdone⟩ := reads_bind.1 hmore
      obtain ⟨rfl, rfl⟩ := reads_ok.1 hdone
      obtain ⟨back, hback, rfl⟩ := (ih more (by simp)).operand ⟨hmid, hp⟩
      have hlt : mid.length < (Token.symbol symbol :: (back ++ mid)).length := by
        simp only [List.length_cons, List.length_append]
        omega
      have := IH _ hlt (fun us hus => ih us (hus.trans hlt)) (.chain hop hfront hback)
        ⟨hmid', hp'⟩ rfl
      rwa [List.append_assoc, List.cons_append] at this
    · obtain ⟨rfl, rfl⟩ := reads_ok.1 h
      exact ⟨front, hfront, rfl⟩
  · obtain ⟨rfl, rfl⟩ := reads_ok.1 h
    exact ⟨front, hfront, rfl⟩

theorem reads_parseLevel {level : Level} {tokens rest : List Token} {e : Expr} :
    Reads (parseLevel level tokens) e rest ↔
      ∃ left mid, Reads (parseOperand level tokens) left mid ∧
        Reads (parseChain level left mid) e rest := by
  rw [parseLevel]
  constructor
  · intro h
    obtain ⟨left, mid, hmid, hp, h⟩ := reads_bind.1 h
    obtain ⟨e', mid', hmid', hp', h⟩ := reads_bind.1 h
    obtain ⟨rfl, rfl⟩ := reads_ok.1 h
    exact ⟨left, mid, ⟨hmid, hp⟩, ⟨hmid', hp'⟩⟩
  · rintro ⟨left, mid, hp, hp'⟩
    refine hp.bind fun h => hp'.bind fun h' => ?_
    exact reads_ok.2 ⟨rfl, rfl⟩

/-- A level reads its phrases if the operands between its operators are read as phrases. -/
theorem begins_of_parseLevel {level : Level} {tokens rest : List Token} {e : Expr}
    (ih : ∀ us : List Token, us.length < tokens.length → ReadsPhrases us)
    (hoperand : ∀ {e : Expr} {rest : List Token},
      Reads (parseOperand level tokens) e rest → Begins level.operand tokens e rest)
    (h : Reads (parseLevel level tokens) e rest) : Begins (.chain level) tokens e rest := by
  obtain ⟨left, mid, hp, hp'⟩ := reads_parseLevel.1 h
  have hlt : mid.length < tokens.length := hp.1
  obtain ⟨front, hfront, rfl⟩ := hoperand hp
  exact begins_of_parseChain (fun us hus => ih us (hus.trans hlt)) (.operand hfront) hp'

theorem readsPhrases (tokens : List Token) : ReadsPhrases tokens := by
  induction hn : tokens.length using Nat.strong_induction_on generalizing tokens with
  | _ n IH =>
  subst hn
  have ih : ∀ us : List Token, us.length < tokens.length → ReadsPhrases us :=
    fun us hus => IH _ hus us rfl
  have hsigned : ∀ {e : Expr} {rest : List Token},
      Reads (parseUnary tokens) e rest → Begins .signed tokens e rest :=
    begins_of_parseUnary ih
  have hproduct : ∀ {e : Expr} {rest : List Token},
      Reads (parseLevel .product tokens) e rest → Begins (.chain .product) tokens e rest :=
    begins_of_parseLevel ih fun h => by rw [parseOperand] at h; exact hsigned h
  have hsum : ∀ {e : Expr} {rest : List Token},
      Reads (parseLevel .sum tokens) e rest → Begins (.chain .sum) tokens e rest :=
    begins_of_parseLevel ih fun h => by rw [parseOperand] at h; exact hproduct h
  have hconcat : ∀ {e : Expr} {rest : List Token},
      Reads (parseLevel .concatenation tokens) e rest →
        Begins (.chain .concatenation) tokens e rest :=
    begins_of_parseLevel ih fun h => by rw [parseOperand] at h; exact hsum h
  have hcomparison : ∀ {e : Expr} {rest : List Token},
      Reads (parseLevel .comparison tokens) e rest → Begins (.chain .comparison) tokens e rest :=
    begins_of_parseLevel ih fun h => by rw [parseOperand] at h; exact hconcat h
  refine ⟨fun {level} {e} {rest} h => ?_, hsigned⟩
  cases level with
  | comparison => exact hcomparison h
  | concatenation => exact hconcat h
  | sum => exact hsum h
  | product => exact hproduct h

end SheetPress
