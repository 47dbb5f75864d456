import Mathlib
import SheetPress.Proofs.Formula.Acceptance
import SheetPress.Proofs.Formula.Rewriting

/-!
# Texts that spell phrases

`Spells phrase text e` says that a text is cut into the tokens of a phrase that stands for `e`,
whatever comes behind it that may follow an operand.  There is one lemma for each way to put a phrase
together, so the text of a formula is read by going through its parts.

* `Spells.loosen`, `Spells.group` — a text as a phrase of a looser kind and in parentheses.
* `Spells.binary`, `spells_call`, `spells_cell` and the like — how texts of phrases are put together.
* `Spells.parseFormula_eq` — the parser reads what a text spells.
-/

namespace SheetPress

/-! ## What operators take -/

/-- The kind of phrase that an operator makes of its operands. -/
def BinaryOp.phrase : BinaryOp → Phrase
  | equal | notEqual | less | greater | lessEqual | greaterEqual => .chain .comparison
  | concat => .chain .concatenation
  | add | subtract => .chain .sum
  | multiply | divide => .chain .product
  | power => .power

/-- The kind of phrase that an operator takes on its left: chains group to the left. -/
def BinaryOp.leftSlot (op : BinaryOp) : Phrase :=
  match op.phrase with
  | .chain level => .chain level
  | _ => .percented

/-- The kind of phrase that an operator takes on its right: powers group to the right. -/
def BinaryOp.rightSlot (op : BinaryOp) : Phrase :=
  match op.phrase with
  | .chain level => level.operand
  | _ => .signed

theorem Derives.binary (op : BinaryOp) {ts us : List Token} {left right : Expr}
    (hl : Derives op.leftSlot ts left) (hr : Derives op.rightSlot us right) :
    Derives op.phrase (ts ++ .symbol op.symbol :: us) (.binary op left right) := by
  cases op with
  | power => exact .power hl hr
  | _ => exact .chain rfl hl hr

theorem BinaryOp.closes_symbol (op : BinaryOp) : op.symbol.closes = true := by
  cases op <;> rfl

/-! ## Spelling -/

/-- A text spells a phrase in front of everything that may follow an operand. -/
def Spells (phrase : Phrase) (text : List Char) (e : Expr) : Prop :=
  ∀ ⦃rest : List Char⦄, Closes rest → ∃ ts, Derives phrase ts e ∧ Lexes (text ++ rest) ts rest

variable {phrase slot : Phrase} {text : List Char} {e : Expr}

/-! ## Whole formulas -/

theorem closes_nil : Closes [] := by simp [Closes]

/-- The parser reads what a text spells, with and without a leading equals sign. -/
theorem Spells.parseFormula_eq (h : Spells phrase text e) :
    parseFormula (String.ofList text) = .ok e ∧
      parseFormula (String.ofList ('=' :: text)) = .ok e := by
  obtain ⟨ts, hderives, hlex⟩ := h closes_nil
  rw [List.append_nil] at hlex
  have hchain := hderives.loosen phrase.looseness_le
  have hequals : Lexes ('=' :: text) (.symbol .equals :: ts) [] :=
    (lexes_symbol .equals (hderives.endsBefore hlex .equals)).singleton_append hlex
  unfold parseFormula tokenize
  rw [parseTokens_eq_ok_iff, parseTokens_eq_ok_iff, String.toList_ofList, String.toList_ofList,
    hlex.tokensOf_eq, hequals.tokensOf_eq, hchain.dropEquals_eq]
  exact ⟨hchain, hchain⟩

/-! ## Kinds of phrases -/

/-- The text of a phrase is also one of every looser kind. -/
theorem Spells.loosen (h : Spells phrase text e) (hle : phrase.looseness ≤ slot.looseness) :
    Spells slot text e := by
  intro rest hrest
  obtain ⟨ts, hderives, hlex⟩ := h hrest
  exact ⟨ts, hderives.loosen hle, hlex⟩

/-- A phrase, a symbol behind it that ends it, and what follows. -/
theorem Spells.lexes_symbol (h : Spells phrase text e) {symbol : Symbol}
    (hcloses : symbol.closes = true) {behind rest : List Char} {us : List Token}
    (hlex : Lexes (symbol.text.toList ++ behind) (.symbol symbol :: us) rest) :
    ∃ ts, Derives phrase ts e ∧
      Lexes (text ++ (symbol.text.toList ++ behind)) (ts ++ .symbol symbol :: us) rest := by
  obtain ⟨ts, hderives, htext⟩ := h (closes_symbol hcloses behind)
  exact ⟨ts, hderives, htext.append hlex⟩

theorem Spells.group (h : Spells phrase text e) : Spells .primary ('(' :: (text ++ [')'])) e := by
  intro rest _
  have hclose : Lexes (Symbol.closeParen.text.toList ++ rest) [.symbol .closeParen] rest :=
    SheetPress.lexes_symbol .closeParen (endsBefore_of_ne (by decide) (by decide) rest)
  obtain ⟨ts, hderives, hlex⟩ := h.lexes_symbol rfl hclose
  refine ⟨_, .group (hderives.loosen phrase.looseness_le), ?_⟩
  have hopen := SheetPress.lexes_symbol .openParen
    (endsBefore_of_ne (by decide) (by decide) (text ++ ')' :: rest))
  rw [List.cons_append, List.append_assoc]
  exact hopen.singleton_append hlex

/-! ## Literals -/

theorem spells_numeral {numeral : List Char} {x : Float} (h : IsNumeral numeral)
    (hread : readNumber? numeral = some x)
    (hstart : ∃ c more, numeral = c :: more ∧ (isAsciiDigit c || c = '.') = true) :
    Spells .primary numeral (.literal (.number x)) := fun _ hrest =>
  ⟨_, .number x, lexes_numeral h hread hstart hrest.ends_numeral⟩

theorem isNumeral_of_digits {digits : List Char} (h : ∀ c ∈ digits, isAsciiDigit c = true) :
    IsNumeral digits :=
  ⟨digits, [], [], h, Or.inl rfl, Or.inl rfl, by simp⟩

theorem spells_natural (n : Nat) :
    Spells .primary (Nat.toDigits 10 n) (.literal (.number (Decimal.toFloat ⟨n, 0⟩))) := by
  have hdigits : ∀ c ∈ Nat.toDigits 10 n, isAsciiDigit c = true := fun _ hc =>
    isAsciiDigit_of_mem_toDigits hc
  obtain ⟨d, more, hcons⟩ := List.exists_cons_of_ne_nil (@Nat.toDigits_ne_nil n 10)
  refine spells_numeral (isNumeral_of_digits hdigits) (readNumber?_toDigits n) ⟨d, more, hcons, ?_⟩
  simp [hdigits d (hcons ▸ List.mem_cons_self ..)]

theorem spells_boolean (b : Bool) :
    Spells .primary (booleanText b).toList (.literal (.boolean b)) := by
  intro rest hrest
  have hname : IsName (booleanText b).toList rest := by
    refine ⟨?_, ?_, hrest.ends_name⟩
    · cases b <;> exact ⟨_, _, rfl, by decide⟩
    · cases b <;> exact forall_mem_of_all (by decide)
  have htoken : nameToken (booleanText b).toList = .boolean b := by
    cases b <;> decide
  have hlex := lexes_name hname
  rw [htoken] at hlex
  exact ⟨_, .boolean b, hlex⟩

/-- A text in quotes, where a quote inside is doubled. -/
def quoted (quote : Char) (body : List Char) : List Char :=
  quote :: (body.flatMap (fun c => if c = quote then [quote, quote] else [c]) ++ [quote])

/-- Doubling quotes is undone where the text behind does not go on with one. -/
theorem quotedBody_doubled {quote : Char} (body : List Char) {rest : List Char}
    (hrest : ∀ c ∈ rest.head?, c ≠ quote) :
    quotedBody quote
      (body.flatMap (fun c => if c = quote then [quote, quote] else [c]) ++ quote :: rest) =
      (body, rest) := by
  induction body with
  | nil =>
    cases rest with
    | nil => simp [quotedBody]
    | cons d rest => simp [quotedBody, hrest d rfl]
  | cons c body ih =>
    rw [List.flatMap_cons, List.append_assoc]
    by_cases hc : c = quote
    · subst hc
      rw [if_pos rfl]
      simp only [List.cons_append, List.nil_append, quotedBody, if_true, ih]
    · have hrun : quote ∉ [c] := by simpa using Ne.symm hc
      rw [if_neg hc]
      -- the text behind the character begins with something, the closing quote at the latest
      obtain ⟨d, more, hmore⟩ := List.exists_cons_of_ne_nil
        (show body.flatMap (fun c => if c = quote then [quote, quote] else [c]) ++ quote :: rest ≠ []
          by simp)
      rw [hmore] at ih ⊢
      simp only [List.cons_append, List.nil_append, quotedBody, if_neg hc, ih]

theorem spells_text (s : String) : Spells .primary (quoted '"' s.toList) (.literal (.text s)) := by
  intro rest hrest
  have hquote : ∀ c ∈ rest.head?, c ≠ '"' := by
    rintro c hc rfl
    exact absurd (of_isCloser (hrest _ hc)).2.2.2.1 (by decide)
  have hlex := lexes_text (quotedBody_doubled s.toList hquote)
  rw [String.ofList_toList] at hlex
  refine ⟨_, .text s, ?_⟩
  unfold quoted
  rw [List.cons_append, List.append_assoc]
  exact hlex

/-! ## References -/

/-- A text spells a reference, the name of its sheet aside. -/
def SpellsBody (sheet : Option String) (text : List Char) (e : Expr) : Prop :=
  ∀ ⦃rest : List Char⦄, Closes rest →
    ∃ body, ReferenceBody sheet body e ∧ Lexes (text ++ rest) body rest

/-- How a reference names its sheet: in single quotes with an exclamation mark behind, or not. -/
def sheetLead : Option String → List Char
  | none => []
  | some sheet => quoted '\'' sheet.toList ++ ['!']

theorem lexes_sheetLead (sheet : Option String) (rest : List Char) :
    ∃ lead, SheetPrefix sheet lead ∧ Lexes (sheetLead sheet ++ rest) lead rest := by
  cases sheet with
  | none => exact ⟨[], .none, .nil rest⟩
  | some sheet =>
    refine ⟨_, .quoted sheet, ?_⟩
    have hbody : quotedBody '\'' (sheet.toList.flatMap
        (fun c => if c = '\'' then ['\'', '\''] else [c]) ++ '\'' :: ('!' :: rest)) =
        (sheet.toList, '!' :: rest) := by
      refine quotedBody_doubled sheet.toList fun c hc => ?_
      obtain rfl : '!' = c := by simpa using hc
      decide
    have hname : Lexes (quoted '\'' sheet.toList ++ '!' :: rest) [.quotedName sheet]
        ('!' :: rest) := by
      unfold quoted
      rw [List.cons_append, List.append_assoc]
      refine .cons (by decide +kernel) ?_ (.nil _)
      show nextToken '\'' (_ ++ '\'' :: ('!' :: rest)) = _
      show (Token.quotedName (String.ofList (quotedBody '\'' _).1), (quotedBody '\'' _).2) = _
      rw [hbody, String.ofList_toList]
    have hmark : Lexes ('!' :: rest) [.symbol .exclamation] rest :=
      lexes_symbol .exclamation (endsBefore_of_ne (by decide) (by decide) rest)
    unfold sheetLead
    rw [List.append_assoc]
    exact hname.singleton_append hmark

theorem SpellsBody.spells {sheet : Option String} (h : SpellsBody sheet text e) :
    Spells .primary (sheetLead sheet ++ text) e := by
  intro rest hrest
  obtain ⟨body, hbody, hlex⟩ := h hrest
  obtain ⟨lead, hlead, hlex'⟩ := lexes_sheetLead sheet (text ++ rest)
  rw [List.append_assoc]
  exact ⟨_, .reference hlead hbody, hlex'.append hlex⟩

section Cells

variable {sheet : Option String} {a b : CellRef}

theorem spells_cell (ha : a.Written) : SpellsBody sheet a.text.toList (.cell sheet a) := by
  intro rest hrest
  rw [a.toList_text]
  exact ⟨_, .cell ha.cellRef_text, ha.proper.lexes hrest.ends_name⟩

theorem spells_range (ha : a.Written) (hb : b.Written) :
    SpellsBody sheet (a.text.toList ++ ':' :: b.text.toList) (.range sheet a b) := by
  intro rest hrest
  rw [a.toList_text, b.toList_text]
  exact ⟨_, .range ha.cellRef_text hb.cellRef_text,
    lexes_range (ha.proper.lexes (ends_name_colon _)) (hb.proper.lexes hrest.ends_name)⟩

end Cells

/-- The spelling of a reference to a whole column. -/
def ColumnRef.chars (r : ColumnRef) : List Char := dollar r.fixed ++ r.column.toList

/-- A reference to a whole column that its spelling stands for: letters in capitals that are not one
of the words for truth values when they stand alone. -/
structure ColumnRef.Written (r : ColumnRef) : Prop where
  column_ne_nil : r.column.toList ≠ []
  isUpper : ∀ c ∈ r.column.toList, c.isUpper = true
  not_boolean : r.fixed = false → r.column ≠ "TRUE" ∧ r.column ≠ "FALSE"

/-- A name in capitals is a name to the lexer if it is not one of the words for truth values. -/
theorem nameToken_eq_name {name : List Char} (hlower : ∀ c ∈ name, c.isLower = false)
    (hne : String.ofList name ≠ "TRUE" ∧ String.ofList name ≠ "FALSE") :
    nameToken name = .name (String.ofList name) := by
  unfold nameToken
  rw [map_toUpper_of_isLower_eq_false hlower]
  split
  · next heq => exact absurd heq hne.1
  · next heq => exact absurd heq hne.2
  · rfl

namespace ColumnRef.Written

variable {r : ColumnRef}

theorem columnRef?_eq (h : r.Written) : columnRef? (String.ofList r.chars) = some r := by
  have hspelled := @SpellsColumn.intro r.fixed _ h.column_ne_nil
    fun c hc => isAsciiLetter_iff.2 (Or.inl (h.isUpper c hc))
  rwa [map_toUpper_of_isLower_eq_false fun c hc => isLower_eq_false_of_isUpper (h.isUpper c hc),
    String.ofList_toList, ← columnRef?_eq_some_iff] at hspelled

theorem lexes (h : r.Written) {rest : List Char}
    (hrest : ∀ c ∈ rest.head?, continuesName c = false) :
    Lexes (r.chars ++ rest) [.name (String.ofList r.chars)] rest := by
  obtain ⟨l, letters, hcons⟩ := List.exists_cons_of_ne_nil h.column_ne_nil
  have hstarts : ∀ c ∈ r.column.toList, startsName c = true := by
    intro c hc
    simp [startsName, isAsciiLetter_iff.2 (Or.inl (h.isUpper c hc))]
  have hl := hstarts l (hcons ▸ List.mem_cons_self ..)
  have hlower : ∀ c ∈ r.column.toList, c.isLower = false := fun c hc =>
    isLower_eq_false_of_isUpper (h.isUpper c hc)
  unfold ColumnRef.chars
  cases hfixed : r.fixed with
  | false =>
    have hname : IsName r.column.toList rest :=
      ⟨⟨l, letters, hcons, by simp [beginsName, hl]⟩,
        fun c hc => by simp [continuesName, hstarts c hc], hrest⟩
    have htoken := nameToken_eq_name hlower (by simpa using h.not_boolean hfixed)
    have hlex := lexes_name hname
    rwa [htoken] at hlex
  | true =>
    have hname : IsName ('$' :: r.column.toList) rest := by
      refine ⟨⟨'$', _, rfl, by simp [beginsName, hcons, hl]⟩, fun c hc => ?_, hrest⟩
      rcases List.mem_cons.1 hc with rfl | hc
      · decide
      · simp [continuesName, hstarts c hc]
    have hne : ∀ word : String, word.toList.head? ≠ some '$' →
        String.ofList ('$' :: r.column.toList) ≠ word := by
      rintro word hword rfl
      exact hword (by simp)
    have hlower' : ∀ c ∈ '$' :: r.column.toList, c.isLower = false := fun c hc => by
      rcases List.mem_cons.1 hc with rfl | hc
      · decide
      · exact hlower c hc
    have htoken := nameToken_eq_name hlower' ⟨hne "TRUE" (by decide), hne "FALSE" (by decide)⟩
    have hlex := lexes_name hname
    rwa [htoken] at hlex

end ColumnRef.Written

theorem spells_columns {sheet : Option String} {a b : ColumnRef} (ha : a.Written)
    (hb : b.Written) : SpellsBody sheet (a.chars ++ ':' :: b.chars) (.columns sheet a b) := by
  intro rest hrest
  exact ⟨_, .columns ha.columnRef?_eq hb.columnRef?_eq,
    lexes_range (ha.lexes (ends_name_colon _)) (hb.lexes hrest.ends_name)⟩

/-! ## Operators -/

theorem Spells.binary (op : BinaryOp) {text' : List Char} {left right : Expr}
    (hl : Spells op.leftSlot text left) (hr : Spells op.rightSlot text' right) :
    Spells op.phrase (text ++ (op.symbol.text.toList ++ text')) (.binary op left right) := by
  intro rest hrest
  obtain ⟨us, hright, hlex⟩ := hr hrest
  have hsymbol := (SheetPress.lexes_symbol op.symbol
    (hright.endsBefore hlex op.symbol)).singleton_append hlex
  obtain ⟨ts, hleft, hlex'⟩ := hl.lexes_symbol op.closes_symbol hsymbol
  rw [List.append_assoc, List.append_assoc]
  exact ⟨_, .binary op hleft hright, hlex'⟩

theorem Spells.negate (h : Spells .signed text e) :
    Spells .signed ('-' :: text) (.unary .negate e) := by
  intro rest hrest
  obtain ⟨ts, hderives, hlex⟩ := h hrest
  have hsign := SheetPress.lexes_symbol .minus (hderives.endsBefore hlex .minus)
  exact ⟨_, .negate hderives, hsign.singleton_append hlex⟩

theorem Spells.percent (h : Spells .percented text e) :
    Spells .percented (text ++ ['%']) (.unary .percent e) := by
  intro rest _
  have hsign : Lexes (Symbol.percent.text.toList ++ rest) [.symbol .percent] rest :=
    SheetPress.lexes_symbol .percent (endsBefore_of_ne (by decide) (by decide) rest)
  obtain ⟨ts, hderives, hlex⟩ := h.lexes_symbol rfl hsign
  rw [List.append_assoc]
  exact ⟨_, .percent hderives, hlex⟩

/-! ## Calls -/

/-- Arguments with commas between them, up to the closing parenthesis. -/
theorem lexes_arguments {texts : List (List Char)} {args : List Expr}
    (h : List.Forall₂ (Spells (.chain .comparison)) texts args) (rest : List Char) :
    ∃ parts : List (List Token × Expr), parts.map (·.2) = args ∧
      (∀ part ∈ parts, Derives (.chain .comparison) part.1 part.2) ∧
      Lexes ([','].intercalate texts ++ ')' :: rest)
        (commaSeparated (parts.map (·.1)) ++ [.symbol .closeParen]) rest := by
  have hclose : Lexes (Symbol.closeParen.text.toList ++ rest) [.symbol .closeParen] rest :=
    lexes_symbol .closeParen (endsBefore_of_ne (by decide) (by decide) rest)
  induction h with
  | nil => exact ⟨[], rfl, by simp, hclose⟩
  | @cons text arg texts args htext htexts ih =>
    obtain ⟨parts, hparts, hall, hlex⟩ := ih
    cases htexts with
    | nil =>
      obtain ⟨ts, hderives, hlex'⟩ := htext.lexes_symbol rfl hclose
      refine ⟨[(ts, arg)], rfl, by simpa using hderives, ?_⟩
      rw [List.intercalate_singleton]
      exact hlex'
    | @cons text' arg' texts args _ _ =>
      have hcomma := (lexes_symbol .comma (endsBefore_of_ne (by decide) (by decide) _)
        ).singleton_append hlex
      obtain ⟨ts, hderives, hlex'⟩ := htext.lexes_symbol rfl hcomma
      refine ⟨(ts, arg) :: parts, by rw [List.map_cons, hparts], ?_, ?_⟩
      · intro part hpart
        rcases List.mem_cons.1 hpart with rfl | hpart
        · exact hderives
        · exact hall part hpart
      · obtain ⟨part, parts, rfl⟩ : ∃ part parts', parts = part :: parts' :=
          List.exists_cons_of_ne_nil (by rintro rfl; cases hparts)
        rw [List.intercalate_cons_cons, List.map_cons, List.map_cons, commaSeparated_cons_cons,
          List.append_assoc, List.append_assoc, List.append_assoc, List.cons_append]
        exact hlex'

/-- The name of a function: an identifier without lower-case letters that is not one of the words for
truth values. -/
structure IsFunctionName (name : String) : Prop where
  begins : ∃ c more, name.toList = c :: more ∧ beginsName c more = true
  continues : ∀ c ∈ name.toList, continuesName c = true
  isLower_eq_false : ∀ c ∈ name.toList, c.isLower = false
  not_boolean : name ≠ "TRUE" ∧ name ≠ "FALSE"

theorem IsFunctionName.lexes {name : String} (h : IsFunctionName name) {rest : List Char}
    (hrest : ∀ c ∈ rest.head?, continuesName c = false) :
    Lexes (name.toList ++ rest) [.name name] rest := by
  have hname : IsName name.toList rest := ⟨h.begins, h.continues, hrest⟩
  have hlex := lexes_name hname
  have htoken := nameToken_eq_name h.isLower_eq_false (by simpa using h.not_boolean)
  rwa [htoken, String.ofList_toList] at hlex

theorem spells_call {name : String} (hname : IsFunctionName name) {texts : List (List Char)}
    {args : List Expr} (h : List.Forall₂ (Spells (.chain .comparison)) texts args) :
    Spells .primary (name.toList ++ '(' :: ([','].intercalate texts ++ [')']))
      (.call name args) := by
  intro rest _
  obtain ⟨parts, rfl, hall, hlex⟩ := lexes_arguments h rest
  have hopen := (lexes_symbol .openParen
    (endsBefore_of_ne (by decide) (by decide) _)).singleton_append hlex
  have hends : ∀ c ∈ ('(' :: ([','].intercalate texts ++ ')' :: rest)).head?,
      continuesName c = false := fun c hc => by
    obtain rfl : '(' = c := by simpa using hc
    decide
  refine ⟨_, .call name parts hall, ?_⟩
  rw [List.append_assoc, List.cons_append, List.append_assoc]
  exact (hname.lexes hends).singleton_append hopen

end SheetPress
