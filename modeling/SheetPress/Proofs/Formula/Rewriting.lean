import Mathlib
import SheetPress.Proofs.Formula.Corner
import SheetPress.Proofs.Formula.Parsing
import SheetPress.Proofs.Formula.References

/-!
# Editing a formula edits its expression

An edit of references works on the text of a formula and does not read it as an expression.  For a
formula in capitals without blanks it does the same as replacing the references of the expression,
provided that it gives each reference the text of another one.

* `Derives.editsAs` — the edited text of a phrase is a phrase of the same kind, for the
  expression with its references replaced.
* `parseFormula_mapReferences` — the same for whole formulas.
-/

namespace SheetPress

/-! ## References that can be written -/

/-- A reference to a cell that its text stands for: letters in capitals and a row that fits an
index. -/
structure CellRef.Written (r : CellRef) : Prop where
  column_ne_nil : r.column.toList ≠ []
  isUpper : ∀ c ∈ r.column.toList, c.isUpper = true
  row_pos : 0 < r.row
  row_lt : r.row < indexLimit

/-- The spelling of a reference to a cell. -/
def CellRef.corner (r : CellRef) : CornerText :=
  ⟨r.columnFixed, r.column.toList, r.rowFixed, Nat.toDigits 10 r.row⟩

namespace CellRef

variable {r : CellRef}

theorem toList_text (r : CellRef) : r.text.toList = r.corner.chars := by
  rw [text, String.toList_ofList]
  rfl

/-- The row of a reference is always spelled in digits. -/
theorem proper_corner (hne : r.column.toList ≠ []) (hupper : ∀ c ∈ r.column.toList, c.isUpper = true) :
    r.corner.Proper :=
  ⟨hne, hupper, Nat.toDigits_ne_nil, fun _ hc => isAsciiDigit_of_mem_toDigits hc⟩

theorem Written.proper (h : r.Written) : r.corner.Proper :=
  proper_corner h.column_ne_nil h.isUpper

theorem ref?_corner (h : r.row < indexLimit) : r.corner.ref? = some r := by
  simp [CornerText.ref?, corner, readNat?_toDigits h]

theorem Written.cellRef_text (h : r.Written) : cellRef (String.ofList r.corner.chars) = .ok r :=
  h.proper.cellRef_eq (ref?_corner h.row_lt) h.row_pos.ne'

/-- What the parser reads as a cell can be written, in capitals whatever its spelling. -/
theorem written_of_cellRef {name : String} (h : cellRef name = .ok r) : r.Written := by
  cases cellRef_eq_ok_iff.1 h with
  | @intro columnFixed rowFixed letters digits hletters hletter hdigits hdigit hpos hlt =>
    refine ⟨by simpa using hletters, fun c hc => ?_, hpos, hlt⟩
    simp only [String.toList_ofList, List.mem_map] at hc
    obtain ⟨d, hd, rfl⟩ := hc
    exact isUpper_toUpper (hletter d hd)

end CellRef

/-- The corners of a reference can be written. -/
def Expr.Written : Expr → Prop
  | .cell _ a => a.Written
  | .range _ a b => a.Written ∧ b.Written
  | _ => True

/-- What holds of every reference that is read holds of the references of a formula. -/
theorem Derives.forall_references {holds : Expr → Prop}
    (hbody : ∀ {sheet : Option String} {ts : List Token} {r : Expr},
      ReferenceBody sheet ts r → holds r)
    {phrase : Phrase} {ts : List Token} {e : Expr} (h : Derives phrase ts e) :
    ∀ r ∈ e.references, holds r := by
  induction h with
  | number x => simp [Expr.references]
  | text s => simp [Expr.references]
  | boolean b => simp [Expr.references]
  | reference hlead hread =>
    intro r hr
    have hr' := hbody hread
    cases hread <;> obtain rfl := List.mem_singleton.1 hr <;> exact hr'
  | call name args _ ih =>
    intro r hr
    rw [Expr.references, Expr.referencesAll_eq_flatMap] at hr
    obtain ⟨e, he, hr⟩ := List.mem_flatMap.1 hr
    obtain ⟨arg, harg, rfl⟩ := List.mem_map.1 he
    exact ih arg harg r hr
  | group _ ih => exact ih
  | unmarked _ ih => exact ih
  | percent _ ih => exact ih
  | base _ ih => exact ih
  | power _ _ ihl ihr =>
    intro r hr
    rcases List.mem_append.1 hr with hr | hr
    · exact ihl r hr
    · exact ihr r hr
  | unsigned _ ih => exact ih
  | negate _ ih => exact ih
  | plus _ ih => exact ih
  | operand _ ih => exact ih
  | chain _ _ _ ihl ihr =>
    intro r hr
    rcases List.mem_append.1 hr with hr | hr
    · exact ihl r hr
    · exact ihr r hr

/-- The references of a formula can be written. -/
theorem Derives.written {phrase : Phrase} {ts : List Token} {e : Expr} (h : Derives phrase ts e) :
    ∀ r ∈ e.references, r.Written := by
  refine h.forall_references fun hbody => ?_
  cases hbody with
  | cell ha => exact CellRef.written_of_cellRef ha
  | range ha hb => exact ⟨CellRef.written_of_cellRef ha, CellRef.written_of_cellRef hb⟩
  | columns ha hb => trivial
  | rows ha hb => trivial

theorem written_of_parseFormula {formula : String} {e : Expr} (h : parseFormula formula = .ok e) :
    ∀ r ∈ e.references, r.Written :=
  (parseTokens_eq_ok_iff.1 h).written

namespace Reference

/-- A reference without the name of its sheet as an expression. -/
def expr (r : Reference) : Expr :=
  match r.last with
  | some last => .range none r.first last
  | none => .cell none r.first

/-- A reference all of whose corners can be written. -/
def Written (r : Reference) : Prop := r.first.Written ∧ ∀ last ∈ r.last, last.Written

/-- The text of a reference is read back as that reference. -/
theorem Written.lexes {r : Reference} (h : r.Written) {rest : List Char} (hrest : Closes rest) :
    ∃ ts, Derives .primary ts r.expr ∧ Lexes (r.text.toList ++ rest) ts rest := by
  obtain ⟨first, last, qualified⟩ := r
  obtain ⟨hfirst, hlast⟩ := h
  cases last with
  | none =>
    refine ⟨[.name (String.ofList first.corner.chars)],
      .reference .none (.cell hfirst.cellRef_text), ?_⟩
    show Lexes (first.text.toList ++ rest) _ _
    rw [first.toList_text]
    exact hfirst.proper.lexes hrest.ends_name
  | some last =>
    have hlast := hlast last rfl
    refine ⟨[.name (String.ofList first.corner.chars), .symbol .colon,
        .name (String.ofList last.corner.chars)],
      .reference .none (.range hfirst.cellRef_text hlast.cellRef_text), ?_⟩
    show Lexes ((first.text ++ ":" ++ last.text).toList ++ rest) _ _
    rw [String.toList_append, String.toList_append, first.toList_text, last.toList_text,
      List.append_assoc first.corner.chars]
    exact lexes_range (hfirst.proper.lexes (ends_name_colon _)) (hlast.proper.lexes hrest.ends_name)

end Reference

/-! ## Edits as replacements -/

/-- An edit gives a reference the text of what replaces it, or keeps it where nothing does. -/
def Reference.EditedTo (f : Reference → Option String) (r : Reference) (e : Expr) : Prop :=
  ∃ r' : Reference, r'.Written ∧ e = r'.expr ∧ (f r = some r'.text ∨ f r = none ∧ r' = r)

/-- A reference of a tree is replaced as its text is edited.  Whole columns and rows are no
references to an edit of the text, and references with the name of a sheet are left out. -/
def EditedTo (f : Reference → Option String) : Expr → Expr → Prop
  | .cell none a, e => Reference.EditedTo f ⟨a, none, false⟩ e
  | .range none a b, e => Reference.EditedTo f ⟨a, some b, false⟩ e
  | .columns none a b, e => e = .columns none a b
  | .rows none a b, e => e = .rows none a b
  | _, _ => False

/-- No lower-case letters stand outside of quotes. -/
def Capital (text : List Char) : Prop := ∀ c ∈ outsideQuotes none text, c.isLower = false

theorem Capital.of_lexes {text rest : List Char} {ts : List Token} (h : Capital text)
    (hlex : Lexes text ts rest) : Capital rest := fun c hc =>
  h c (hlex.outsideQuotes_subset c hc)

theorem Capital.of_append {cs rest : List Char} (h : Capital (cs ++ rest))
    (hcs : ∀ c ∈ cs, isQuote c = false) : (∀ c ∈ cs, c.isLower = false) ∧ Capital rest := by
  unfold Capital at h
  rw [outsideQuotes_append rest hcs] at h
  exact ⟨fun c hc => h c (List.mem_append_left _ hc), fun c hc => h c (List.mem_append_right _ hc)⟩

theorem Capital.exists_symbol {text rest : List Char} {ts : List Token} {symbol : Symbol}
    (h : Capital text) (hlex : Lexes text (.symbol symbol :: ts) rest) :
    ∃ mid, text = symbol.text.toList ++ mid ∧ Capital mid ∧ Lexes mid ts rest := by
  obtain ⟨mid, rfl, hmid⟩ := hlex.exists_symbol
  exact ⟨mid, rfl, (h.of_append symbol.isQuote_eq_false).2, hmid⟩

/-- A name in capitals is written as its token says. -/
theorem Capital.exists_name {text rest : List Char} {ts : List Token} {s : String}
    (h : Capital text) (hlex : Lexes text (.name s :: ts) rest) :
    ∃ mid, text = s.toList ++ mid ∧ IsName s.toList mid ∧ nameToken s.toList = .name s ∧
      (∀ c ∈ s.toList, c.isLower = false) ∧ Capital mid ∧ Lexes mid ts rest := by
  obtain ⟨name, mid, rfl, hname, ht, hmid⟩ := hlex.exists_name (Or.inr ⟨s, rfl⟩)
  obtain ⟨hlower, hcapital⟩ :=
    h.of_append fun c hc => isQuote_eq_false_of_continuesName (hname.continues c hc)
  rcases nameToken_cases name with ⟨b, hb⟩ | hn
  · rw [hb] at ht
    cases ht
  · have hs : s = String.ofList name := by
      rw [hn, map_toUpper_of_isLower_eq_false hlower] at ht
      cases ht
      rfl
    subst hs
    rw [String.toList_ofList]
    exact ⟨mid, rfl, hname, ht.symm, hlower, hcapital, hmid⟩

/-! ## Primary phrases -/

section Primary

variable {f : Reference → Option String} {before : Option Char} {text rest : List Char}

/-- The edited text of a phrase is a phrase of the same kind. -/
def EditsPhrase (f : Reference → Option String) (phrase : Phrase) (before : Option Char)
    (text rest : List Char) (e : Expr) : Prop :=
  ∃ ts, Derives phrase ts e ∧ Lexes (editedFrom f none before text) ts (editedFrom f none none rest)

theorem editsPhrase_cell {name : String} {a : CellRef} {e : Expr} (ha : cellRef name = .ok a)
    (hedit : Reference.EditedTo f ⟨a, none, false⟩ e) (hlex : Lexes text [.name name] rest)
    (hcapital : Capital text) (hbefore : Apart before) (hrest : Closes rest) :
    EditsPhrase f .primary before text rest e := by
  obtain ⟨mid, rfl, -, -, hlower, -, hmid⟩ := hcapital.exists_name hlex
  cases hmid
  obtain ⟨corner, hproper, hchars, href, hrow⟩ := exists_corner_of_cellRef ha hlower
  obtain ⟨r', hwritten, rfl, hf⟩ := hedit
  unfold EditsPhrase
  rw [hchars, editedFrom_corner hproper href hbefore hrest]
  rcases hf with hf | ⟨hf, rfl⟩
  · rw [hf]
    exact hwritten.lexes hrest.editedFrom
  · rw [hf]
    refine ⟨_, .reference .none (.cell (hproper.cellRef_eq href hrow)), ?_⟩
    exact hproper.lexes hrest.editedFrom.ends_name

theorem editsPhrase_range {first last : String} {a b : CellRef} {e : Expr}
    (ha : cellRef first = .ok a) (hb : cellRef last = .ok b)
    (hedit : Reference.EditedTo f ⟨a, some b, false⟩ e)
    (hlex : Lexes text [.name first, .symbol .colon, .name last] rest)
    (hcapital : Capital text) (hbefore : Apart before) (hrest : Closes rest) :
    EditsPhrase f .primary before text rest e := by
  obtain ⟨mid, rfl, -, -, hlower, hcapital, hlex⟩ := hcapital.exists_name hlex
  obtain ⟨mid, rfl, hcapital, hlex⟩ := hcapital.exists_symbol hlex
  obtain ⟨mid, rfl, -, -, hlower', -, hlex⟩ := hcapital.exists_name hlex
  cases hlex
  obtain ⟨corner, hproper, hchars, href, hrow⟩ := exists_corner_of_cellRef ha hlower
  obtain ⟨corner', hproper', hchars', href', hrow'⟩ := exists_corner_of_cellRef hb hlower'
  obtain ⟨r', hwritten, rfl, hf⟩ := hedit
  unfold EditsPhrase
  have hedited := editedFrom_corners (f := f) hproper hproper' href href' hbefore hrest
  rw [hchars, hchars']
  show ∃ ts, _ ∧ Lexes (editedFrom f none before (corner.chars ++ ':' :: (corner'.chars ++ rest))) _ _
  rw [hedited]
  rcases hf with hf | ⟨hf, rfl⟩
  · rw [hf]
    exact hwritten.lexes hrest.editedFrom
  · rw [hf]
    refine ⟨_, .reference .none (.range (hproper.cellRef_eq href hrow)
      (hproper'.cellRef_eq href' hrow')), ?_⟩
    show Lexes ((corner.chars ++ ':' :: corner'.chars) ++ _) _ _
    exact lexes_range (hproper.lexes (ends_name_colon _))
      (hproper'.lexes hrest.editedFrom.ends_name)

theorem exists_letters_of_columnRef? {name : String} {a : ColumnRef} (h : columnRef? name = some a)
    (hlower : ∀ c ∈ name.toList, c.isLower = false) :
    ∃ letters, name.toList = dollar a.fixed ++ letters ∧ ∀ c ∈ letters, c.isUpper = true := by
  cases columnRef?_eq_some_iff.1 h with
  | @intro fixed letters hletters hletter =>
    rw [String.toList_ofList] at hlower ⊢
    refine ⟨letters, rfl, fun c hc => ?_⟩
    have := hletter c hc
    rw [isAsciiLetter_iff, hlower c (List.mem_append_right _ hc)] at this
    simpa using this

theorem editsPhrase_columns {first last : String} {a b : ColumnRef}
    (ha : columnRef? first = some a) (hb : columnRef? last = some b)
    (hlex : Lexes text [.name first, .symbol .colon, .name last] rest)
    (hcapital : Capital text) (hrest : Closes rest) :
    EditsPhrase f .primary before text rest (.columns none a b) := by
  obtain ⟨mid, rfl, hname, htoken, hlower, hcapital, hlex⟩ := hcapital.exists_name hlex
  obtain ⟨mid, rfl, hcapital, hlex⟩ := hcapital.exists_symbol hlex
  obtain ⟨mid, rfl, hname', htoken', hlower', -, hlex⟩ := hcapital.exists_name hlex
  cases hlex
  obtain ⟨letters, hletters, hupper⟩ := exists_letters_of_columnRef? ha hlower
  obtain ⟨letters', hletters', hupper'⟩ := exists_letters_of_columnRef? hb hlower'
  have hedited := editedFrom_of_pieces (f := f)
    (piecesFrom_columns before a.fixed b.fixed hupper hupper' hrest)
  rw [← hletters, ← hletters', List.append_assoc, List.cons_append] at hedited
  refine ⟨_, .reference .none (.columns ha hb), ?_⟩
  show Lexes (editedFrom f none before (first.toList ++ ':' :: (last.toList ++ rest))) _ _
  rw [hedited]
  have hlex : Lexes (first.toList ++ ':' :: (last.toList ++ editedFrom f none none rest))
      [nameToken first.toList] _ := lexes_name
    ⟨hname.begins, hname.continues, ends_name_colon _⟩
  have hlex' : Lexes (last.toList ++ editedFrom f none none rest) [nameToken last.toList] _ :=
    lexes_name ⟨hname'.begins, hname'.continues, hrest.editedFrom.ends_name⟩
  rw [htoken] at hlex
  rw [htoken'] at hlex'
  exact hlex.singleton_append ((lexes_colon _).singleton_append hlex')

theorem editsPhrase_number {x : Float} (hlex : Lexes text [.number x] rest)
    (hrest : Closes rest) :
    EditsPhrase f .primary before text rest (.literal (.number x)) := by
  obtain ⟨numeral, mid, rfl, hnumeral, hread, hstart, hlex⟩ := hlex.exists_numeral
  cases hlex
  obtain ⟨last, hlast⟩ := editedFrom_numeral f before hnumeral hstart hrest.ends_corners
  refine ⟨_, .number x, ?_⟩
  rw [hlast, hrest.editedFrom_eq]
  exact lexes_numeral hnumeral hread hstart hrest.editedFrom.ends_numeral

theorem editsPhrase_rows {first last : Float} (ha : IsRowNumber first) (hb : IsRowNumber last)
    (hlex : Lexes text [.number first, .symbol .colon, .number last] rest) (hrest : Closes rest) :
    EditsPhrase f .primary before text rest
      (.rows none (clampNat32 first) (clampNat32 last)) := by
  obtain ⟨numeral, mid, rfl, hnumeral, hread, hstart, hcolon⟩ := hlex.exists_numeral
  obtain ⟨mid, rfl, hlast⟩ := hcolon.exists_symbol
  obtain ⟨numeral', mid, rfl, hnumeral', hread', hstart', hend⟩ := hlast.exists_numeral
  cases hend
  have hedited := editedFrom_of_pieces (f := f)
    (piecesFrom_rows before hnumeral hnumeral' hstart hstart' hrest)
  rw [List.append_assoc, List.cons_append] at hedited
  refine ⟨_, .reference .none (.rows ha hb), ?_⟩
  show Lexes (editedFrom f none before (numeral ++ ':' :: (numeral' ++ rest))) _ _
  rw [hedited]
  refine (lexes_numeral hnumeral hread hstart fun c hc => ?_).singleton_append <|
    (lexes_colon _).singleton_append <|
      lexes_numeral hnumeral' hread' hstart' hrest.editedFrom.ends_numeral
  obtain rfl : ':' = c := by simpa using hc
  decide

theorem editsPhrase_text {s : String} (hlex : Lexes text [.text s] rest) (hrest : Closes rest) :
    EditsPhrase f .primary before text rest (.literal (.text s)) := by
  obtain ⟨more, rfl, rfl, hend⟩ := hlex.exists_text
  generalize hbody : quotedBody '"' more = r at hend ⊢
  obtain ⟨body, behind⟩ := r
  cases hend
  obtain ⟨last, hedited⟩ := quotedBody_editedFrom f (some '"') (by decide) hbody fun c hc =>
    (of_isCloser (hrest c hc)).2.2.1
  refine ⟨_, .text _, ?_⟩
  rw [editedFrom_open (by decide)]
  rw [hrest.editedFrom_eq] at hedited
  exact lexes_text hedited

theorem eq_of_nameToken_eq_boolean {name : List Char} {b : Bool} (h : nameToken name = .boolean b)
    (hlower : ∀ c ∈ name, c.isLower = false) :
    name = ['T', 'R', 'U', 'E'] ∨ name = ['F', 'A', 'L', 'S', 'E'] := by
  unfold nameToken at h
  rw [map_toUpper_of_isLower_eq_false hlower] at h
  split at h
  · rename_i heq
    left
    rw [← String.toList_ofList (l := name), heq]
    rfl
  · rename_i heq
    right
    rw [← String.toList_ofList (l := name), heq]
    rfl
  · cases h

theorem editsPhrase_boolean {b : Bool} (hlex : Lexes text [.boolean b] rest)
    (hcapital : Capital text) (hrest : Closes rest) :
    EditsPhrase f .primary before text rest (.literal (.boolean b)) := by
  obtain ⟨name, mid, rfl, hname, htoken, hlex⟩ := hlex.exists_name (Or.inl ⟨b, rfl⟩)
  cases hlex
  have hlower := (hcapital.of_append fun c hc =>
    isQuote_eq_false_of_continuesName (hname.continues c hc)).1
  have hupper : ∀ c ∈ name, c.isUpper = true := by
    rcases eq_of_nameToken_eq_boolean htoken.symm hlower with rfl | rfl <;>
      exact forall_mem_of_all (by decide)
  obtain ⟨last, hlast⟩ := editedFrom_letters f before hupper hrest.ends_letters
  refine ⟨_, .boolean b, ?_⟩
  rw [hlast, hrest.editedFrom_eq, htoken]
  exact lexes_name ⟨hname.begins, hname.continues, hrest.editedFrom.ends_name⟩

end Primary

/-! ## Symbols between phrases -/

/-- Symbols that end the phrase in front of them. -/
def Symbol.closes : Symbol → Bool
  | .openParen => false
  | .colon => false
  | .exclamation => false
  | _ => true

theorem Symbol.closes_of_operator? {level : Level} {symbol : Symbol} {op : BinaryOp}
    (h : level.operator? symbol = some op) : symbol.closes = true := by
  cases level <;> cases symbol <;> first | rfl | cases h

theorem closes_symbol {symbol : Symbol} (h : symbol.closes = true) (rest : List Char) :
    Closes (symbol.text.toList ++ rest) := by
  obtain ⟨d, more, hcons⟩ := List.exists_cons_of_ne_nil symbol.text_ne_nil
  have hd : symbol.text.toList.head?.all isCloser = true := by
    cases symbol <;> first | decide +kernel | cases h
  rw [Option.all_eq_true] at hd
  intro c hc
  rw [hcons] at hc hd
  exact hd c hc

/-- A symbol stays, and a reference may follow it. -/
theorem editedFrom_symbol (f : Reference → Option String) (symbol : Symbol)
    (h : symbol ≠ .exclamation) :
    ∃ last, Apart last ∧ ∀ before rest, editedFrom f none before (symbol.text.toList ++ rest) =
      symbol.text.toList ++ editedFrom f none last rest := by
  obtain ⟨last, hlast, hpieces⟩ := piecesFrom_symbol symbol h
  exact ⟨last, hlast, fun before rest => editedFrom_of_pieces (hpieces before rest)⟩

/-- A phrase begins with nothing that makes the symbol in front of it a longer one. -/
theorem Derives.endsBefore {phrase : Phrase} {ts : List Token} {e : Expr} (h : Derives phrase ts e)
    {text rest : List Char} (hlex : Lexes text ts rest) (symbol : Symbol) :
    symbol.EndsBefore text := by
  obtain ⟨t, us, rfl, hopens⟩ := h.exists_cons
  cases hlex with
  | @cons c text behind _ _ _ _ ht _ =>
    have hequals : c ≠ '=' := by
      rintro rfl
      cases ht
      have := hopens _ rfl
      cases phrase <;> cases this
    have hgreater : c ≠ '>' := by
      rintro rfl
      have hfirst : t = .symbol .greaterEqual ∨ t = .symbol .greater := by
        simp only [nextToken, symbolSpan?] at ht
        split at ht
        · rename_i heq
          split at heq <;> cases heq <;> cases ht <;> simp
        · rename_i heq
          split at heq <;> cases heq
      rcases hfirst with rfl | rfl <;> have := hopens _ rfl <;> cases phrase <;> cases this
    exact ⟨fun _ => ⟨by simpa using hequals, by simpa using hgreater⟩, fun _ => by simpa using hequals⟩

/-! ## Phrases -/

/-- Wherever a phrase is written in capitals, the edited text is a phrase of the same kind for the
expression with its references replaced. -/
def EditsAs (f : Reference → Option String) (g : Expr → Expr) (phrase : Phrase) (ts : List Token)
    (e : Expr) : Prop :=
  ∀ ⦃before : Option Char⦄ ⦃text rest : List Char⦄, Lexes text ts rest → Capital text →
    Apart before → Closes rest → EditsPhrase f phrase before text rest (e.mapReferences g)

variable {f : Reference → Option String} {g : Expr → Expr}

/-- A phrase, a symbol behind it and what follows. -/
theorem EditsAs.exists_symbol {phrase : Phrase} {ts us : List Token} {e : Expr} {symbol : Symbol}
    (h : EditsAs f g phrase ts e) (hcloses : symbol.closes = true) {before : Option Char}
    {text rest : List Char} (hlex : Lexes text (ts ++ .symbol symbol :: us) rest)
    (hcapital : Capital text) (hbefore : Apart before) :
    ∃ ts' mid last, Derives phrase ts' (e.mapReferences g) ∧ Apart last ∧ Capital mid ∧
      Lexes mid us rest ∧
      Lexes (editedFrom f none before text) ts'
        (symbol.text.toList ++ editedFrom f none last mid) := by
  obtain ⟨mid, hfront, hback⟩ := hlex.exists_mid
  obtain ⟨mid', rfl, hcapital', hlex'⟩ := (hcapital.of_lexes hfront).exists_symbol hback
  obtain ⟨ts', hderives, hlex''⟩ := h hfront hcapital hbefore (closes_symbol hcloses mid')
  obtain ⟨last, hlast, hedited⟩ := editedFrom_symbol f symbol
    (by rintro rfl; cases hcloses)
  rw [hedited] at hlex''
  exact ⟨ts', mid', last, hderives, hlast, hcapital', hlex', hlex''⟩

/-- The arguments of a call, up to the closing parenthesis. -/
theorem editsArguments {args : List (List Token × Expr)}
    (h : ∀ arg ∈ args, EditsAs f g (.chain .comparison) arg.1 arg.2) {before : Option Char}
    {text rest : List Char}
    (hlex : Lexes text (commaSeparated (args.map (·.1)) ++ [.symbol .closeParen]) rest)
    (hcapital : Capital text) (hbefore : Apart before) (hrest : Closes rest) :
    ∃ args' : List (List Token × Expr),
      (∀ arg ∈ args', Derives (.chain .comparison) arg.1 arg.2) ∧
      args'.map (·.2) = (args.map (·.2)).map (Expr.mapReferences g) ∧
      Lexes (editedFrom f none before text)
        (commaSeparated (args'.map (·.1)) ++ [.symbol .closeParen]) (editedFrom f none none rest) := by
  have hclose : ∀ last, Lexes (Symbol.closeParen.text.toList ++ editedFrom f none last rest)
      [.symbol .closeParen] (editedFrom f none none rest) := by
    intro last
    rw [hrest.editedFrom_eq]
    exact lexes_symbol _ (endsBefore_of_ne (by decide) (by decide) _)
  induction args generalizing before text with
  | nil =>
    obtain ⟨mid, rfl, -, hend⟩ := hcapital.exists_symbol hlex
    cases hend
    obtain ⟨last, -, hedited⟩ := editedFrom_symbol f .closeParen (by decide)
    refine ⟨[], by simp, rfl, ?_⟩
    rw [hedited]
    exact hclose last
  | cons arg args ih =>
    have harg := h arg (List.mem_cons_self ..)
    cases args with
    | nil =>
      obtain ⟨ts', mid, last, hderives, -, -, hend, hlex'⟩ :=
        harg.exists_symbol rfl hlex hcapital hbefore
      cases hend
      exact ⟨[(ts', _)], by simpa using hderives, rfl, hlex'.append (hclose last)⟩
    | cons next args =>
      rw [List.map_cons, List.map_cons, commaSeparated_cons_cons, List.append_assoc,
        List.cons_append] at hlex
      obtain ⟨ts', mid, last, hderives, hlast, hmid, hmore, hlex'⟩ :=
        harg.exists_symbol rfl hlex hcapital hbefore
      obtain ⟨args', hall, hmap, hlex''⟩ :=
        ih (fun a ha => h a (List.mem_cons_of_mem _ ha)) hmore hmid hlast
      refine ⟨(ts', arg.2.mapReferences g) :: args', ?_, ?_, ?_⟩
      · intro a ha
        rcases List.mem_cons.1 ha with rfl | ha
        · exact hderives
        · exact hall a ha
      · rw [List.map_cons, hmap]
        rfl
      · cases args' with
        | nil => cases hmap
        | cons next' args' =>
          rw [List.map_cons, List.map_cons, commaSeparated_cons_cons, List.append_assoc,
            List.cons_append]
          refine hlex'.append ((lexes_symbol _ ?_).singleton_append hlex'')
          exact endsBefore_of_ne (by decide) (by decide) _

/-- A call of a function. -/
theorem editsAs_call (name : String) {args : List (List Token × Expr)}
    (h : ∀ arg ∈ args, EditsAs f g (.chain .comparison) arg.1 arg.2) :
    EditsAs f g .primary
      (.name name :: .symbol .openParen :: (commaSeparated (args.map (·.1)) ++ [.symbol .closeParen]))
      (.call name (args.map (·.2))) := by
  intro before text rest hlex hcapital hbefore hrest
  obtain ⟨mid, rfl, hname, htoken, -, hcapital', hparen⟩ := hcapital.exists_name hlex
  obtain ⟨mid, rfl, hcapital'', harguments⟩ := hcapital'.exists_symbol hparen
  have hapart : Apart (some '(') := by
    intro c hc
    obtain rfl : '(' = c := by simpa using hc
    decide +kernel
  obtain ⟨args', hall, hmap, hlex'⟩ := editsArguments h harguments hcapital'' hapart hrest
  have hcall := Derives.call name args' hall
  rw [hmap, ← Expr.mapReferencesAll_eq_map] at hcall
  refine ⟨_, hcall, ?_⟩
  show Lexes (editedFrom f none before (name.toList ++ '(' :: mid)) _ _
  rw [editedFrom_function mid hname.continues]
  have hparen' : ∀ c ∈ ('(' :: editedFrom f none (some '(') mid).head?, continuesName c = false := by
    intro c hc
    obtain rfl : '(' = c := by simpa using hc
    decide
  have hlexName := lexes_name ⟨hname.begins, hname.continues, hparen'⟩
  rw [htoken] at hlexName
  refine hlexName.singleton_append ?_
  refine (lexes_symbol .openParen ?_).singleton_append hlex'
  exact endsBefore_of_ne (by decide) (by decide) _

/-- A phrase that is a phrase of another kind as it stands. -/
theorem EditsAs.of_derives {phrase phrase' : Phrase} {ts : List Token} {e : Expr}
    (h : EditsAs f g phrase ts e)
    (hderives : ∀ {ts' : List Token}, Derives phrase ts' (e.mapReferences g) →
      Derives phrase' ts' (e.mapReferences g)) : EditsAs f g phrase' ts e := by
  intro before text rest hlex hcapital hbefore hrest
  obtain ⟨ts', hphrase, hlex'⟩ := h hlex hcapital hbefore hrest
  exact ⟨ts', hderives hphrase, hlex'⟩

section Symbols

variable {phrase : Phrase} {ts : List Token} {e : Expr} {symbol : Symbol} {before : Option Char}
  {text rest : List Char}

/-- A symbol and the phrase behind it. -/
theorem EditsAs.behind_symbol (h : EditsAs f g phrase ts e) (hsymbol : symbol ≠ .exclamation)
    (hlex : Lexes text (.symbol symbol :: ts) rest) (hcapital : Capital text) (hrest : Closes rest) :
    ∃ ts', Derives phrase ts' (e.mapReferences g) ∧
      Lexes (editedFrom f none before text) (.symbol symbol :: ts') (editedFrom f none none rest) := by
  obtain ⟨mid, rfl, hcapital', hlex'⟩ := hcapital.exists_symbol hlex
  obtain ⟨last, hlast, hedited⟩ := editedFrom_symbol f symbol hsymbol
  obtain ⟨ts', hderives, hlex''⟩ := h hlex' hcapital' hlast hrest
  refine ⟨ts', hderives, ?_⟩
  rw [hedited]
  exact (lexes_symbol symbol (hderives.endsBefore hlex'' symbol)).singleton_append hlex''

/-- A phrase with a symbol behind it. -/
theorem EditsAs.before_symbol (h : EditsAs f g phrase ts e) (hcloses : symbol.closes = true)
    (hends : ∀ rest, symbol.EndsBefore rest) (hlex : Lexes text (ts ++ [.symbol symbol]) rest)
    (hcapital : Capital text) (hbefore : Apart before) (hrest : Closes rest) :
    ∃ ts', Derives phrase ts' (e.mapReferences g) ∧
      Lexes (editedFrom f none before text) (ts' ++ [.symbol symbol])
        (editedFrom f none none rest) := by
  obtain ⟨ts', mid, last, hderives, -, -, hend, hlex'⟩ :=
    h.exists_symbol hcloses hlex hcapital hbefore
  cases hend
  refine ⟨ts', hderives, hlex'.append ?_⟩
  rw [hrest.editedFrom_eq]
  exact lexes_symbol symbol (hends _)

/-- Two phrases with a symbol between them. -/
theorem EditsAs.between {phrase' : Phrase} {us : List Token} {e' : Expr}
    (h : EditsAs f g phrase ts e) (h' : EditsAs f g phrase' us e') (hcloses : symbol.closes = true)
    (hlex : Lexes text (ts ++ .symbol symbol :: us) rest) (hcapital : Capital text)
    (hbefore : Apart before) (hrest : Closes rest) :
    ∃ ts' us', Derives phrase ts' (e.mapReferences g) ∧ Derives phrase' us' (e'.mapReferences g) ∧
      Lexes (editedFrom f none before text) (ts' ++ .symbol symbol :: us')
        (editedFrom f none none rest) := by
  obtain ⟨ts', mid, last, hleft, hlast, hmid, hmore, hlex'⟩ :=
    h.exists_symbol hcloses hlex hcapital hbefore
  obtain ⟨us', hright, hlex''⟩ := h' hmore hmid hlast hrest
  refine ⟨ts', us', hleft, hright, hlex'.append ?_⟩
  exact (lexes_symbol symbol (hright.endsBefore hlex'' symbol)).singleton_append hlex''

end Symbols

/-- The edited text of a phrase is a phrase of the same kind, for the expression with its references
replaced. -/
theorem Derives.editsAs {phrase : Phrase} {ts : List Token} {e : Expr} (h : Derives phrase ts e)
    (hg : ∀ r ∈ e.references, EditedTo f r (g r)) : EditsAs f g phrase ts e := by
  induction h with
  | number x =>
    intro before text rest hlex hcapital hbefore hrest
    exact editsPhrase_number hlex hrest
  | text s =>
    intro before text rest hlex hcapital hbefore hrest
    exact editsPhrase_text hlex hrest
  | boolean b =>
    intro before text rest hlex hcapital hbefore hrest
    exact editsPhrase_boolean hlex hcapital hrest
  | @reference sheet lead body e hlead hbody =>
    intro before text rest hlex hcapital hbefore hrest
    have hreference : e.isReference = true := by cases hbody <;> rfl
    rw [Expr.references_of_isReference hreference] at hg
    rw [Expr.mapReferences_of_isReference g hreference]
    have hedit := hg e (List.mem_singleton_self e)
    cases hlead with
    | name sheet => cases hbody <;> exact hedit.elim
    | quoted sheet => cases hbody <;> exact hedit.elim
    | none =>
      cases hbody with
      | cell ha => exact editsPhrase_cell ha hedit hlex hcapital hbefore hrest
      | range ha hb => exact editsPhrase_range ha hb hedit hlex hcapital hbefore hrest
      | columns ha hb =>
        rw [show g _ = _ from hedit]
        exact editsPhrase_columns ha hb hlex hcapital hrest
      | rows ha hb =>
        rw [show g _ = _ from hedit]
        exact editsPhrase_rows ha hb hlex hrest
  | call name args hargs ih =>
    refine editsAs_call name fun arg harg => ih arg harg fun r hr => hg r ?_
    rw [Expr.references, Expr.referencesAll_eq_flatMap]
    exact List.mem_flatMap.2 ⟨arg.2, List.mem_map_of_mem harg, hr⟩
  | group h ih =>
    intro before text rest hlex hcapital hbefore hrest
    obtain ⟨mid, rfl, hcapital', hlex'⟩ := hcapital.exists_symbol hlex
    obtain ⟨last, hlast, hedited⟩ := editedFrom_symbol f .openParen (by decide)
    obtain ⟨ts', hderives, hlex''⟩ := (ih hg).before_symbol rfl
      (endsBefore_of_ne (by decide) (by decide)) hlex' hcapital' hlast hrest
    refine ⟨_, .group hderives, ?_⟩
    rw [hedited]
    exact (lexes_symbol _ (endsBefore_of_ne (by decide) (by decide) _)).singleton_append hlex''
  | unmarked h ih => exact (ih hg).of_derives .unmarked
  | percent h ih =>
    intro before text rest hlex hcapital hbefore hrest
    obtain ⟨ts', hderives, hlex'⟩ := (ih hg).before_symbol rfl
      (endsBefore_of_ne (by decide) (by decide)) hlex hcapital hbefore hrest
    exact ⟨_, .percent hderives, hlex'⟩
  | base h ih => exact (ih hg).of_derives .base
  | power hl hr ihl ihr =>
    intro before text rest hlex hcapital hbefore hrest
    rw [Expr.references] at hg
    obtain ⟨ts', us', hleft, hright, hlex'⟩ :=
      (ihl fun r hr => hg r (List.mem_append_left _ hr)).between
        (ihr fun r hr => hg r (List.mem_append_right _ hr)) rfl hlex hcapital hbefore hrest
    exact ⟨_, .power hleft hright, hlex'⟩
  | unsigned h ih => exact (ih hg).of_derives .unsigned
  | negate h ih =>
    intro before text rest hlex hcapital hbefore hrest
    obtain ⟨ts', hderives, hlex'⟩ := (ih hg).behind_symbol (by decide) hlex hcapital hrest
    exact ⟨_, .negate hderives, hlex'⟩
  | plus h ih =>
    intro before text rest hlex hcapital hbefore hrest
    obtain ⟨ts', hderives, hlex'⟩ := (ih hg).behind_symbol (by decide) hlex hcapital hrest
    exact ⟨_, .plus hderives, hlex'⟩
  | operand h ih => exact (ih hg).of_derives .operand
  | chain hop hl hr ihl ihr =>
    intro before text rest hlex hcapital hbefore hrest
    rw [Expr.references] at hg
    obtain ⟨ts', us', hleft, hright, hlex'⟩ :=
      (ihl fun r hr => hg r (List.mem_append_left _ hr)).between
        (ihr fun r hr => hg r (List.mem_append_right _ hr)) (Symbol.closes_of_operator? hop) hlex
        hcapital hbefore hrest
    exact ⟨_, .chain hop hleft hright, hlex'⟩

/-! ## Whole formulas -/

/-- An edit of the references of a formula gives a formula for the expression with its references
replaced. -/
theorem parseFormula_mapReferences {formula : String} {e : Expr}
    (hparse : parseFormula formula = .ok e)
    (hblank : ∀ c ∈ outsideQuotes none formula.toList, isBlank c = false)
    (hcapital : Capital formula.toList) (hg : ∀ r ∈ e.references, EditedTo f r (g r)) :
    parseFormula (mapReferences f formula) = .ok (e.mapReferences g) := by
  have hlex := lexes_tokensOf hblank
  unfold parseFormula tokenize at hparse ⊢
  rw [parseTokens_eq_ok_iff] at hparse ⊢
  rw [mapReferences_eq_editedFrom, String.toList_ofList]
  generalize formula.toList = text at hlex hparse hcapital
  generalize tokensOf text = ts at hlex hparse
  have hend : Closes [] := by simp [Closes]
  by_cases hequals : ∃ us, ts = .symbol .equals :: us
  · obtain ⟨us, rfl⟩ := hequals
    obtain ⟨us', hderives, hlex'⟩ : ∃ us', Derives (.chain .comparison) us' (e.mapReferences g) ∧
        Lexes (editedFrom f none none text) (.symbol .equals :: us') (editedFrom f none none []) :=
      (hparse.editsAs hg).behind_symbol (by decide) hlex hcapital hend
    rw [editedFrom_nil] at hlex'
    rw [hlex'.tokensOf_eq]
    exact hderives
  · have hdrop : dropEquals ts = ts := by
      unfold dropEquals
      split
      · exact absurd ⟨_, rfl⟩ hequals
      · rfl
    rw [hdrop] at hparse
    have hnothing : Apart none := by simp [Apart]
    obtain ⟨ts', hderives, hlex'⟩ := hparse.editsAs hg hlex hcapital hnothing hend
    rw [editedFrom_nil] at hlex'
    rw [hlex'.tokensOf_eq]
    -- a phrase does not begin with an equals sign
    obtain ⟨t, us, rfl, hopens⟩ := hderives.exists_cons
    have hdrop' : dropEquals (t :: us) = t :: us := by
      unfold dropEquals
      split
      · rename_i heq
        cases heq
        cases hopens _ rfl
      · rfl
    rw [hdrop']
    exact hderives

/-- A formula that parses and is written in capitals without blanks outside of its quotes. -/
structure IsPlain (formula : String) (e : Expr) : Prop where
  parses : parseFormula formula = .ok e
  isBlank : ∀ c ∈ outsideQuotes none formula.toList, isBlank c = false
  isLower : ∀ c ∈ outsideQuotes none formula.toList, c.isLower = false

theorem IsPlain.parseFormula_mapReferences {formula : String} {e : Expr} (h : IsPlain formula e)
    (hg : ∀ r ∈ e.references, EditedTo f r (g r)) :
    parseFormula (mapReferences f formula) = .ok (e.mapReferences g) :=
  SheetPress.parseFormula_mapReferences h.parses h.isBlank h.isLower hg

end SheetPress
