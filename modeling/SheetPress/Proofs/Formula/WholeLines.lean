import Mathlib
import SheetPress.Proofs.Formula.Retokening

/-!
# Whole columns and rows in an edited formula

An edit of the text of a formula leaves references to whole columns and rows as they are: these have
no corners.  They can be read off the tokens, which change in the names of corners only, so that the
formula afterwards has the same ones in the same order.

* `Expr.ownLines` — the whole columns and rows of the own sheet that an expression refers to.
* `Derives.givesLines` — they are found in the tokens of a phrase.
* `ownLines_mapReferences` — a formula that is edited keeps them.
-/

namespace SheetPress

/-- A reference to whole columns or rows of the own sheet. -/
def Expr.isOwnLines : Expr → Bool
  | .columns none _ _ => true
  | .rows none _ _ => true
  | _ => false

/-- The whole columns and rows of the own sheet that an expression refers to, in order. -/
def Expr.ownLines (e : Expr) : List Expr := e.references.filter Expr.isOwnLines

/-- The reference to whole lines that two tokens give with a colon between them. -/
def lineOf? : Token → Token → Option Expr
  | .name first, .name last =>
    match columnRef? first, columnRef? last with
    | some a, some b => some (.columns none a b)
    | _, _ => none
  | .number first, .number last => (rowsRef none first last).toOption
  | _, _ => none

/-- The reference to whole lines at the front of some tokens. -/
def lineAt? : List Token → Option Expr
  | first :: .symbol .colon :: last :: _ => lineOf? first last
  | _ => none

/-- The references to whole lines in some tokens, but for those behind the name of a sheet. -/
def linesIn (qualified : Bool) : List Token → List Expr
  | [] => []
  | t :: rest =>
    (if qualified then none else lineAt? (t :: rest)).toList ++
      linesIn (t = .symbol .exclamation) rest

/-! ## Lines in the tokens of a phrase -/

section Phrases

variable {rest ts : List Token}

theorem lineAt?_of_head (t : Token) (h : rest.head? ≠ some (.symbol .colon)) :
    lineAt? (t :: rest) = none := by
  unfold lineAt?
  split <;> simp_all

theorem lineAt?_symbol (symbol : Symbol) (rest : List Token) :
    lineAt? (.symbol symbol :: rest) = none := by
  unfold lineAt?
  split
  · next heq =>
    obtain ⟨rfl, -⟩ := List.cons.inj heq
    rfl
  · rfl

theorem linesIn_of_lineAt? {t : Token} (q : Bool) (h : lineAt? (t :: rest) = none)
    (ht : t ≠ .symbol .exclamation) : linesIn q (t :: rest) = linesIn false rest := by
  rw [linesIn, h, ite_self, decide_eq_false ht]
  rfl

theorem linesIn_symbol {symbol : Symbol} (q : Bool) (h : symbol ≠ .exclamation)
    (rest : List Token) : linesIn q (.symbol symbol :: rest) = linesIn false rest :=
  linesIn_of_lineAt? q (lineAt?_symbol symbol rest) fun heq => h (Token.symbol.inj heq)

/-- The last token of an operand, with nothing behind it that makes a range of it. -/
theorem linesIn_of_head {t : Token} (q : Bool) (ht : t ≠ .symbol .exclamation)
    (h : rest.head? ≠ some (.symbol .colon)) : linesIn q (t :: rest) = linesIn false rest :=
  linesIn_of_lineAt? q (lineAt?_of_head t h) ht

theorem linesIn_exclamation (q : Bool) (t : Token) (rest : List Token)
    (ht : t ≠ .symbol .exclamation) :
    linesIn q (t :: .symbol .exclamation :: rest) = linesIn true rest := by
  rw [linesIn_of_head q ht (by simp), linesIn, lineAt?_symbol, ite_self]
  rfl

theorem linesIn_range (q : Bool) {t u : Token} (ht : t ≠ .symbol .exclamation)
    (hu : u ≠ .symbol .exclamation) (hrest : rest.head? ≠ some (.symbol .colon)) :
    linesIn q (t :: .symbol .colon :: u :: rest) =
      (if q then none else lineAt? (t :: .symbol .colon :: u :: rest)).toList ++
        linesIn false rest := by
  rw [linesIn, decide_eq_false ht, linesIn_symbol false (by decide), linesIn_of_head false hu hrest]

/-- The tokens of a reference give the reference if it is one to whole lines of the own sheet. -/
theorem ReferenceBody.linesIn {sheet : Option String} {body : List Token} {e : Expr}
    (h : ReferenceBody sheet body e) (hrest : rest.head? ≠ some (.symbol .colon)) :
    SheetPress.linesIn sheet.isSome (body ++ rest) =
      e.ownLines ++ SheetPress.linesIn false rest := by
  cases h with
  | cell ha =>
    rw [List.singleton_append, linesIn_of_head _ (by simp) hrest]
    rfl
  | @range first last a b ha hb =>
    have hnone : lineAt? (.name first :: .symbol .colon :: .name last :: rest) = none := by
      simp [lineAt?, lineOf?, columnRef?_eq_none_of_cellRef ha]
    show SheetPress.linesIn _ (.name first :: .symbol .colon :: .name last :: rest) = _
    rw [linesIn_range _ (by simp) (by simp) hrest, hnone, ite_self]
    rfl
  | @columns first last a b ha hb =>
    have hsome : lineAt? (.name first :: .symbol .colon :: .name last :: rest) =
        some (.columns none a b) := by simp [lineAt?, lineOf?, ha, hb]
    show SheetPress.linesIn _ (.name first :: .symbol .colon :: .name last :: rest) = _
    rw [linesIn_range _ (by simp) (by simp) hrest, hsome]
    cases sheet <;> rfl
  | @rows first last ha hb =>
    have hsome : lineAt? (.number first :: .symbol .colon :: .number last :: rest) =
        some (.rows none (clampNat32 first) (clampNat32 last)) := by
      rw [lineAt?, lineOf?, rowsRef_eq_ok_iff.2 ⟨ha, hb, rfl⟩]
      rfl
    show SheetPress.linesIn _ (.number first :: .symbol .colon :: .number last :: rest) = _
    rw [linesIn_range _ (by simp) (by simp) hrest, hsome]
    cases sheet <;> rfl

/-- The tokens `ts` give the references `lines`, whatever comes behind them but a colon. -/
def GivesLines (ts : List Token) (lines : List Expr) : Prop :=
  ∀ rest : List Token, rest.head? ≠ some (.symbol .colon) →
    linesIn false (ts ++ rest) = lines ++ linesIn false rest

namespace GivesLines

variable {us : List Token} {lines lines' : List Expr} {symbol : Symbol}

theorem single {t : Token} (ht : t ≠ .symbol .exclamation) : GivesLines [t] [] :=
  fun _ hrest => linesIn_of_head false ht hrest

theorem behind_symbol (h : GivesLines ts lines) (hsymbol : symbol ≠ .exclamation) :
    GivesLines (.symbol symbol :: ts) lines := fun rest hrest => by
  rw [List.cons_append, linesIn_symbol false hsymbol, h rest hrest]

theorem before_symbol (h : GivesLines ts lines) (hcolon : symbol ≠ .colon)
    (hsymbol : symbol ≠ .exclamation) : GivesLines (ts ++ [.symbol symbol]) lines := fun rest _ => by
  rw [List.append_assoc, List.singleton_append, h _ (by simpa using hcolon),
    linesIn_symbol false hsymbol]

theorem between (h : GivesLines ts lines) (h' : GivesLines us lines') (hcolon : symbol ≠ .colon)
    (hsymbol : symbol ≠ .exclamation) :
    GivesLines (ts ++ .symbol symbol :: us) (lines ++ lines') := fun rest hrest => by
  rw [List.append_assoc, List.cons_append, h _ (by simpa using hcolon),
    linesIn_symbol false hsymbol, h' rest hrest, List.append_assoc]

/-- The arguments of a call, up to the closing parenthesis. -/
theorem arguments {args : List (List Token × Expr)}
    (h : ∀ arg ∈ args, GivesLines arg.1 arg.2.ownLines) :
    GivesLines (commaSeparated (args.map (·.1)) ++ [.symbol .closeParen])
      (args.flatMap (·.2.ownLines)) := by
  induction args with
  | nil => exact single (by simp)
  | cons arg args ih =>
    have harg := h arg (List.mem_cons_self ..)
    cases args with
    | nil =>
      rw [List.flatMap_singleton]
      exact harg.before_symbol (by decide) (by decide)
    | cons next args =>
      rw [List.map_cons, List.map_cons, commaSeparated_cons_cons, List.append_assoc,
        List.cons_append, List.flatMap_cons]
      exact harg.between (ih fun a ha => h a (List.mem_cons_of_mem _ ha)) (by decide) (by decide)

end GivesLines

theorem Symbol.ne_of_operator? {level : Level} {symbol : Symbol} {op : BinaryOp}
    (h : level.operator? symbol = some op) : symbol ≠ .colon ∧ symbol ≠ .exclamation := by
  constructor <;> (rintro rfl; cases level <;> cases h)

/-- The references of a phrase to whole lines of the own sheet are found in its tokens. -/
theorem Derives.givesLines {phrase : Phrase} {ts : List Token} {e : Expr} (h : Derives phrase ts e) :
    GivesLines ts e.ownLines := by
  induction h with
  | number x => exact .single (by simp)
  | text s => exact .single (by simp)
  | boolean b => exact .single (by simp)
  | @reference sheet lead body e hlead hbody =>
    intro rest hrest
    rw [← hbody.linesIn hrest]
    cases hlead with
    | none => rfl
    | name sheet => exact linesIn_exclamation false _ _ (by simp)
    | quoted sheet => exact linesIn_exclamation false _ _ (by simp)
  | call name args _ ih =>
    intro rest hrest
    have hlines : (Expr.call name (args.map (·.2))).ownLines =
        args.flatMap (·.2.ownLines) := by
      rw [Expr.ownLines, Expr.references, Expr.referencesAll_eq_flatMap, List.flatMap_map,
        List.filter_flatMap]
      rfl
    have hopen : Symbol.openParen ≠ .exclamation := by decide
    rw [List.cons_append, List.cons_append, linesIn_of_head false (by simp) (by simp),
      linesIn_symbol false hopen, GivesLines.arguments ih rest hrest, hlines]
  | group _ ih => exact (ih.before_symbol (by decide) (by decide)).behind_symbol (by decide)
  | unmarked _ ih => exact ih
  | percent _ ih => exact ih.before_symbol (by decide) (by decide)
  | base _ ih => exact ih
  | power _ _ ihl ihr =>
    rw [Expr.ownLines, Expr.references, List.filter_append]
    exact ihl.between ihr (by decide) (by decide)
  | unsigned _ ih => exact ih
  | negate _ ih => exact ih.behind_symbol (by decide)
  | plus _ ih => exact ih.behind_symbol (by decide)
  | operand _ ih => exact ih
  | chain hop _ _ ihl ihr =>
    rw [Expr.ownLines, Expr.references, List.filter_append]
    exact ihl.between ihr (Symbol.ne_of_operator? hop).1 (Symbol.ne_of_operator? hop).2

/-- The references of a formula to whole lines of the own sheet are found in its tokens. -/
theorem ownLines_eq_linesIn {formula : String} {e : Expr} (h : parseFormula formula = .ok e) :
    e.ownLines = linesIn false (tokenize formula) := by
  unfold parseFormula at h
  rw [parseTokens_eq_ok_iff] at h
  have hlines := h.givesLines [] (by simp)
  rw [List.append_nil, linesIn, List.append_nil] at hlines
  have hequals : Symbol.equals ≠ .exclamation := by decide
  rw [← hlines]
  unfold dropEquals
  split
  · next rest htokens => rw [htokens, linesIn_symbol false hequals]
  · rfl

end Phrases

/-! ## Lines before and after an edit -/

section Edits

variable {ts ts' : List Token}

theorem lineOf?_of_columnRef? {s : String} (hs : columnRef? s = none) (t : Token) :
    lineOf? (.name s) t = none ∧ lineOf? t (.name s) = none := by
  cases t <;> simp [lineOf?, hs]

theorem lineAt?_name {s : String} (hs : columnRef? s = none) (ts : List Token) :
    lineAt? (.name s :: ts) = none := by
  unfold lineAt?
  split
  · next heq =>
    obtain ⟨rfl, -⟩ := List.cons.inj heq
    exact (lineOf?_of_columnRef? hs _).1
  · rfl

/-- References other than those to whole lines make no difference. -/
theorem Retokens.lineAt?_cons (h : Retokens ts ts') (t : Token) :
    lineAt? (t :: ts) = lineAt? (t :: ts') := by
  cases h with
  | nil => rfl
  | @name s s' hs hs' ts ts' h => rw [lineAt?_of_head t (by simp), lineAt?_of_head t (by simp)]
  | first hs hlast hs' h => rw [lineAt?_of_head t (by simp), lineAt?_of_head t (by simp)]
  | same u h =>
    by_cases hu : u = .symbol .colon
    · subst hu
      cases h with
      | nil => rfl
      | same v h => rfl
      | name hs hs' h =>
        exact (lineOf?_of_columnRef? hs t).2.trans (lineOf?_of_columnRef? hs' t).2.symm
      | first hs hlast hs' h =>
        exact (lineOf?_of_columnRef? hs t).2.trans (lineOf?_of_columnRef? hs' t).2.symm
    · rw [lineAt?_of_head t (by simpa using hu), lineAt?_of_head t (by simpa using hu)]

theorem Retokens.linesIn_eq (h : Retokens ts ts') (q : Bool) : linesIn q ts = linesIn q ts' := by
  induction h generalizing q with
  | nil => rfl
  | same t h ih => rw [linesIn, linesIn, h.lineAt?_cons, ih]
  | name hs hs' h ih =>
    rw [linesIn_of_lineAt? q (lineAt?_name hs _) (by simp),
      linesIn_of_lineAt? q (lineAt?_name hs' _) (by simp), ih]
  | first hs hlast hs' h ih =>
    rw [linesIn_of_lineAt? q (lineAt?_name hs _) (by simp), linesIn_symbol false (by decide),
      linesIn_of_lineAt? false (lineAt?_name hlast _) (by simp),
      linesIn_of_lineAt? q (lineAt?_name hs' _) (by simp), ih]

theorem isForeign_eq_false_of_parses {formula : String} {e : Expr}
    (h : parseFormula formula = .ok e) :
    ∀ c ∈ outsideQuotes none formula.toList, isForeign c = false := by
  intro c hc
  rw [← Bool.not_eq_true]
  exact fun hforeign => parseFormula_ne_ok_of_isForeign hforeign hc e h

/-- An edit keeps the references of a formula to whole columns and rows: in any spelling, the formula
refers to the same ones afterwards if it parses then. -/
theorem ownLines_mapReferences {f : Reference → Option String} (hf : WritesReferences f)
    {formula : String} {e e' : Expr} (h : parseFormula formula = .ok e)
    (h' : parseFormula (mapReferences f formula) = .ok e') : e'.ownLines = e.ownLines := by
  have hforeign := isForeign_eq_false_of_parses h'
  rw [ownLines_eq_linesIn h, ownLines_eq_linesIn h', tokenize, tokenize]
  rw [mapReferences_eq_editedFrom, String.toList_ofList] at hforeign ⊢
  exact ((retokens_editedFrom hf (isForeign_eq_false_of_parses h) hforeign).linesIn_eq false).symm

end Edits

end SheetPress
