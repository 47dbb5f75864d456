import SheetPress.Evaluation.Basic
import SheetPress.Proofs.Template.BoundTexts

/-!
# Formulas with names bound to cells

Tokens that differ in addresses only are formulas of the same shape, and these have the same value as
long as the cells with the addresses hold the same.

* `Expr.SameOver` — expressions that give the same over two grids.
* `Derives.exists_sameOver` — phrases of tokens that are alike.
* `BoundAlike.parseFormula` — texts that differ in addresses only are formulas with the same value.
-/

namespace SheetPress

/-! ## Expressions over two grids -/

/-- Two expressions that give the same as operands and as arguments, each over a grid of its own. -/
structure Expr.SameOver (g g' : Grid) (e e' : Expr) : Prop where
  value : e.eval (.single g) = e'.eval (.single g')
  isReference : e.isReference = e'.isReference
  cells : e.visit? (.single g) = e'.visit? (.single g')

/-- Functions that do not exist. -/
def IsUnknown (name : String) : Prop := ∀ args, callFunction name args = .error .name

namespace Expr.SameOver

variable {g g' : Grid} {left left' right right' e e' : Expr}

theorem literal (value : Literal) : SameOver g g' (.literal value) (.literal value) :=
  ⟨rfl, rfl, rfl⟩

theorem cell {ref ref' : CellRef} (h : g.get? ref.place = g'.get? ref'.place) :
    SameOver g g' (.cell none ref) (.cell none ref') := by
  have hcells : (Expr.cell none ref).visit? (.single g) =
      (Expr.cell none ref').visit? (.single g') := by
    simp only [visit?, Scope.grid?, Scope.single, Option.map_some, h]
  refine ⟨?_, rfl, hcells⟩
  simp only [eval, referenceValue, hcells]
  simp only [visit?, Scope.grid?, Scope.single, Option.map_some, List.headD_cons]

theorem binary (hl : SameOver g g' left left') (op : BinaryOp) (hr : SameOver g g' right right') :
    SameOver g g' (.binary op left right) (.binary op left' right') :=
  ⟨by rw [eval, eval, hl.value, hr.value], rfl, rfl⟩

theorem unary (h : SameOver g g' e e') (op : UnaryOp) :
    SameOver g g' (.unary op e) (.unary op e') :=
  ⟨by rw [eval, eval, h.value], rfl, rfl⟩

theorem evalArguments {args args' : List Expr} (h : List.Forall₂ (SameOver g g') args args') :
    evalArguments (.single g) args = evalArguments (.single g') args' := by
  induction h with
  | nil => rfl
  | cons h _ ih => rw [Expr.evalArguments, Expr.evalArguments, h.value, h.isReference, h.cells, ih]

/-- Calls of the same function, or of functions that do not exist. -/
theorem call {name name' : String} {args args' : List Expr}
    (hname : name = name' ∨ IsUnknown name ∧ IsUnknown name')
    (h : List.Forall₂ (SameOver g g') args args') :
    SameOver g g' (.call name args) (.call name' args') := by
  refine ⟨?_, rfl, rfl⟩
  rw [eval, eval]
  rcases hname with rfl | ⟨hname, hname'⟩
  · rw [evalArguments h]
  · rw [hname, hname']

end Expr.SameOver

/-! ## Names of functions -/

/-- Functions have letters for names. -/
theorem isUnknown_of_mem {name : String} {c : Char} (hc : c ∈ name.toList) (hcode : c.toNat < 128)
    (hletter : isAsciiLetter c = false) : IsUnknown name := by
  intro args
  have hupper : upperChar c = [c] := by
    have hlower : c.isLower = false := by
      simp only [isAsciiLetter, Char.isAlpha, Bool.or_eq_false_iff] at hletter
      exact hletter.2
    rw [upperChar, if_pos hcode, toUpper_of_isLower_eq_false hlower]
  have hmem : c ∈ (toUpperText name).toList := by
    rw [toUpperText, String.toList_ofList]
    exact List.mem_flatMap.2 ⟨c, hc, hupper ▸ List.mem_singleton_self c⟩
  unfold callFunction
  generalize toUpperText name = key at hmem
  have hne {word : String} (hword : word.toList.all isAsciiLetter = true) : key ≠ word := by
    rintro rfl
    rw [List.all_eq_true.1 hword c hmem] at hletter
    cases hletter
  split <;> first | exact absurd rfl (hne (by decide)) | rfl

theorem isUnknown_of_dot {name : String} (h : '.' ∈ name.toList) : IsUnknown name :=
  isUnknown_of_mem h (by decide) (by decide)

theorem isUnknown_address (n : Nat) : IsUnknown (scratchPlace n).address := by
  obtain ⟨d, hd⟩ := List.exists_mem_of_ne_nil _ (Nat.toDigits_ne_nil (b := 10) (n := n + 1))
  have hdigit := isAsciiDigit_of_mem_toDigits hd
  refine isUnknown_of_mem (c := d) ?_ ?_ ?_
  · rw [toList_address_scratchPlace]
    exact List.mem_cons_of_mem _ hd
  · have := isAsciiDigit_iff.1 hdigit
    omega
  · by_contra hletter
    rw [Bool.not_eq_false] at hletter
    rw [isAsciiDigit_eq_false_of_letter hletter] at hdigit
    cases hdigit

/-! ## Names of cells -/

theorem cellRef_address {n : Nat} (h : n + 1 < indexLimit) :
    cellRef (scratchPlace n).address = .ok ⟨"A", n + 1, false, false⟩ := by
  have hdigits := digitsValue_toDigits (n + 1)
  have hspelled := @SpellsCell.intro false false ['A'] (Nat.toDigits 10 (n + 1)) (by simp)
    (forall_mem_of_all (by decide))
    Nat.toDigits_ne_nil (fun _ => isAsciiDigit_of_mem_toDigits)
    (by rw [hdigits]; exact Nat.succ_pos n) (by rw [hdigits]; exact h)
  rw [hdigits] at hspelled
  rw [cellRef_eq_ok_iff, ← String.ofList_toList (s := (scratchPlace n).address),
    toList_address_scratchPlace]
  exact hspelled

theorem cellRef_ne_ok_of_dot {name : String} (h : '.' ∈ name.toList) (ref : CellRef) :
    cellRef name ≠ .ok ref := by
  rw [Ne, cellRef_eq_ok_iff]
  rintro ⟨-, hletter, -, hdigit, -, -⟩
  have hdollar (fixed : Bool) : '.' ∉ dollar fixed := by cases fixed <;> decide
  rw [String.toList_ofList, List.mem_append, List.mem_append, List.mem_append] at h
  rcases h with h | h | h | h
  · exact hdollar _ h
  · exact absurd (hletter _ h) (by decide)
  · exact hdollar _ h
  · exact absurd (hdigit _ h) (by decide)

theorem place_scratchPlace (n : Nat) :
    CellRef.place ⟨"A", n + 1, false, false⟩ = scratchPlace n := by
  have hcol : columnIndex "A".toList = 0 := by decide
  rw [CellRef.place, Coord.ofLetters, scratchPlace, hcol, Nat.add_sub_cancel]

/-! ## Lists of tokens -/

section Lists

variable {R : Nat → Nat → Prop} {next : Option Token} {t : Token} {ts us vs : List Token}

theorem ListAlike.exists_cons (h : ListAlike R next (t :: ts) vs) :
    ∃ u us, vs = u :: us ∧ TokenAlike R (ts.head?.or next) t u ∧ ListAlike R next ts us := by
  cases h with
  | cons ht h => exact ⟨_, _, rfl, ht, h⟩

theorem ListAlike.exists_append (h : ListAlike R next (ts ++ us) vs) :
    ∃ ts' us', vs = ts' ++ us' ∧ ListAlike R (us.head?.or next) ts ts' ∧
      ListAlike R next us us' := by
  induction ts generalizing vs with
  | nil => exact ⟨[], vs, rfl, .nil, h⟩
  | cons t ts ih =>
    obtain ⟨u, vs, rfl, ht, h⟩ := h.exists_cons
    obtain ⟨ts', us', rfl, hts, hus⟩ := ih h
    refine ⟨u :: ts', us', rfl, .cons ?_ hts, hus⟩
    rwa [List.append_eq, List.head?_append, Option.or_assoc] at ht

/-- Tokens that are no names are the same in both lists. -/
theorem TokenAlike.eq_of_not_name {u : Token} (h : TokenAlike R next t u)
    (ht : ∀ name, t ≠ .name name) : u = t := by
  cases h with
  | same => rfl
  | address => exact absurd rfl (ht _)
  | dotted => exact absurd rfl (ht _)

theorem TokenAlike.symbol {symbol : Symbol} {u : Token} (h : TokenAlike R next (.symbol symbol) u) :
    u = .symbol symbol ∧ symbol ≠ .colon ∧ symbol ≠ .exclamation := by
  cases h with
  | same hname hsymbol => exact ⟨rfl, by simpa using hsymbol⟩

theorem ListAlike.exists_symbol {symbol : Symbol} (h : ListAlike R next (.symbol symbol :: us) vs) :
    ∃ us', vs = .symbol symbol :: us' ∧ ListAlike R next us us' := by
  obtain ⟨u, us', rfl, hu, h⟩ := h.exists_cons
  exact ⟨us', by rw [hu.symbol.1], h⟩

/-- Lists with a symbol between two parts. -/
theorem ListAlike.exists_append_symbol {symbol : Symbol}
    (h : ListAlike R next (ts ++ .symbol symbol :: us) vs) :
    ∃ ts' us', vs = ts' ++ .symbol symbol :: us' ∧ ListAlike R (some (.symbol symbol)) ts ts' ∧
      ListAlike R next us us' := by
  obtain ⟨ts', vs, rfl, hts, hvs⟩ := h.exists_append
  obtain ⟨us', rfl, hus⟩ := hvs.exists_symbol
  exact ⟨ts', us', rfl, hts, hus⟩

/-- There are no ranges and no names of sheets. -/
theorem ListAlike.symbol_notMem (h : ListAlike R next ts us) :
    .symbol .colon ∉ ts ∧ .symbol .exclamation ∉ ts := by
  induction h with
  | nil => simp
  | cons ht _ ih =>
    cases ht with
    | same hname hsymbol => simpa [hsymbol.1.symm, hsymbol.2.symm] using ih
    | address => simpa using ih
    | dotted => simpa using ih

theorem ListAlike.singleton (h : ListAlike R next [t] us) (ht : ∀ name, t ≠ .name name) :
    us = [t] := by
  obtain ⟨u, us, rfl, hu, h⟩ := h.exists_cons
  cases h
  rw [hu.eq_of_not_name ht]

end Lists

/-! ## Phrases -/

/-- Numbers of rows of two grids whose cells in the first column are equal. -/
structure SameCell (g g' : Grid) (i j : Nat) : Prop where
  left : i + 1 < indexLimit
  right : j + 1 < indexLimit
  cell : g.get? (scratchPlace i) = g'.get? (scratchPlace j)

section Phrases

variable {g g' : Grid} {next : Option Token}

/-- A name that is a cell is an address, and so is the other one. -/
theorem exists_sameOver_cell {name : String} {ref : CellRef} {us : List Token}
    (hname : cellRef name = .ok ref) (hnext : next ≠ some (.symbol .openParen))
    (h : ListAlike (SameCell g g') next [.name name] us) :
    ∃ e, Derives .primary us e ∧ Expr.SameOver g g' (.cell none ref) e := by
  obtain ⟨u, us, rfl, hu, h⟩ := h.exists_cons
  cases h
  cases hu with
  | same hparen => exact absurd (hparen name rfl) hnext
  | @address i j hij =>
    rw [cellRef_address hij.left] at hname
    cases hname
    refine ⟨_, .reference .none (.cell (cellRef_address hij.right)), .cell ?_⟩
    rw [place_scratchPlace, place_scratchPlace, hij.cell]
  | dotted ha => exact absurd hname (cellRef_ne_ok_of_dot ha ref)

theorem TokenAlike.exists_name {R : Nat → Nat → Prop} {name : String} {u : Token}
    (h : TokenAlike R next (.name name) u) :
    ∃ name', u = .name name' ∧ (name = name' ∨ IsUnknown name ∧ IsUnknown name') := by
  cases h with
  | same => exact ⟨name, rfl, .inl rfl⟩
  | address => exact ⟨_, rfl, .inr ⟨isUnknown_address _, isUnknown_address _⟩⟩
  | dotted ha hb => exact ⟨_, rfl, .inr ⟨isUnknown_of_dot ha, isUnknown_of_dot hb⟩⟩

/-- The arguments of a call, given what is known of each. -/
theorem exists_sameOver_args {args : List (List Token × Expr)} {us : List Token}
    (hargs : ∀ arg ∈ args, ∀ {next : Option Token} {us : List Token},
      next ≠ some (.symbol .openParen) → ListAlike (SameCell g g') next arg.1 us →
        ∃ e, Derives (.chain .comparison) us e ∧ arg.2.SameOver g g' e)
    (hnext : next ≠ some (.symbol .openParen))
    (h : ListAlike (SameCell g g') next (commaSeparated (args.map (·.1))) us) :
    ∃ args' : List (List Token × Expr), us = commaSeparated (args'.map (·.1)) ∧
      (∀ arg ∈ args', Derives (.chain .comparison) arg.1 arg.2) ∧
      List.Forall₂ (Expr.SameOver g g') (args.map (·.2)) (args'.map (·.2)) := by
  induction args generalizing us with
  | nil =>
    cases h
    exact ⟨[], rfl, by simp, .nil⟩
  | cons arg args ih =>
    obtain ⟨harg, hargs⟩ := List.forall_mem_cons.1 hargs
    cases args with
    | nil =>
      obtain ⟨e, hderives, hsame⟩ := harg hnext h
      exact ⟨[(us, e)], rfl, by simpa using hderives, .cons hsame .nil⟩
    | cons arg' args =>
      rw [List.map_cons, List.map_cons, commaSeparated_cons_cons] at h
      obtain ⟨us, vs, rfl, hfirst, hrest⟩ := h.exists_append_symbol
      obtain ⟨e, hderives, hsame⟩ := harg (by simp) hfirst
      obtain ⟨args', rfl, hderives', hsame'⟩ := ih hargs hrest
      refine ⟨(us, e) :: args', ?_, List.forall_mem_cons.2 ⟨hderives, hderives'⟩, .cons hsame hsame'⟩
      cases args' with
      | nil => cases hsame'
      | cons => rfl

/-- Phrases of tokens that are alike, in front of what is no opening parenthesis. -/
theorem Derives.exists_sameOver {phrase : Phrase} {ts us : List Token} {e : Expr}
    (h : Derives phrase ts e) (hnext : next ≠ some (.symbol .openParen))
    (halike : ListAlike (SameCell g g') next ts us) :
    ∃ e', Derives phrase us e' ∧ e.SameOver g g' e' := by
  induction h generalizing next us with
  | number x =>
    rw [halike.singleton (by simp)]
    exact ⟨_, .number x, .literal _⟩
  | text s =>
    rw [halike.singleton (by simp)]
    exact ⟨_, .text s, .literal _⟩
  | boolean b =>
    rw [halike.singleton (by simp)]
    exact ⟨_, .boolean b, .literal _⟩
  | reference hlead hbody =>
    have hsymbols := halike.symbol_notMem
    cases hlead with
    | none =>
      cases hbody with
      | cell h => exact exists_sameOver_cell h hnext halike
      | _ => simp at hsymbols
    | _ => simp at hsymbols
  | call name args _ ih =>
    obtain ⟨u, us, rfl, hu, hrest⟩ := halike.exists_cons
    obtain ⟨name', rfl, hname⟩ := hu.exists_name
    obtain ⟨us, rfl, hopened⟩ := hrest.exists_symbol
    obtain ⟨us, vs, rfl, hinner, hend⟩ := hopened.exists_append_symbol
    cases hend
    obtain ⟨args', rfl, hderives, hsame⟩ := exists_sameOver_args ih (by simp) hinner
    exact ⟨_, .call name' args' hderives, .call hname hsame⟩
  | group _ ih =>
    obtain ⟨us, rfl, hrest⟩ := halike.exists_symbol
    obtain ⟨us, vs, rfl, hinner, hend⟩ := hrest.exists_append_symbol
    cases hend
    obtain ⟨e', hderives, hsame⟩ := ih (by simp) hinner
    exact ⟨e', .group hderives, hsame⟩
  | unmarked _ ih =>
    obtain ⟨e', hderives, hsame⟩ := ih hnext halike
    exact ⟨e', .unmarked hderives, hsame⟩
  | percent _ ih =>
    obtain ⟨us, vs, rfl, hinner, hend⟩ := halike.exists_append_symbol
    cases hend
    obtain ⟨e', hderives, hsame⟩ := ih (by simp) hinner
    exact ⟨_, .percent hderives, hsame.unary _⟩
  | base _ ih =>
    obtain ⟨e', hderives, hsame⟩ := ih hnext halike
    exact ⟨e', .base hderives, hsame⟩
  | power _ _ ihl ihr =>
    obtain ⟨us, vs, rfl, hleft, hright⟩ := halike.exists_append_symbol
    obtain ⟨l, hl, hsamel⟩ := ihl (by simp) hleft
    obtain ⟨r, hr, hsamer⟩ := ihr hnext hright
    exact ⟨_, .power hl hr, hsamel.binary _ hsamer⟩
  | unsigned _ ih =>
    obtain ⟨e', hderives, hsame⟩ := ih hnext halike
    exact ⟨e', .unsigned hderives, hsame⟩
  | negate _ ih =>
    obtain ⟨us, rfl, hrest⟩ := halike.exists_symbol
    obtain ⟨e', hderives, hsame⟩ := ih hnext hrest
    exact ⟨_, .negate hderives, hsame.unary _⟩
  | plus _ ih =>
    obtain ⟨us, rfl, hrest⟩ := halike.exists_symbol
    obtain ⟨e', hderives, hsame⟩ := ih hnext hrest
    exact ⟨e', .plus hderives, hsame⟩
  | operand _ ih =>
    obtain ⟨e', hderives, hsame⟩ := ih hnext halike
    exact ⟨e', .operand hderives, hsame⟩
  | @chain level symbol op ts us left right hop _ _ ihl ihr =>
    have hsymbol : symbol ≠ .openParen := by
      rintro rfl
      cases level <;> cases hop
    obtain ⟨us, vs, rfl, hleft, hright⟩ := halike.exists_append_symbol
    obtain ⟨l, hl, hsamel⟩ := ihl (by simpa using hsymbol) hleft
    obtain ⟨r, hr, hsamer⟩ := ihr hnext hright
    exact ⟨_, .chain hop hl hr, hsamel.binary _ hsamer⟩

end Phrases

/-! ## Formulas -/

theorem ListAlike.dropEquals {R : Nat → Nat → Prop} {ts us : List Token}
    (h : ListAlike R none ts us) : ListAlike R none (dropEquals ts) (dropEquals us) := by
  unfold SheetPress.dropEquals
  split
  · obtain ⟨us, rfl, hrest⟩ := h.exists_symbol
    exact hrest
  · next hne =>
    split
    · cases h with
      | cons ht h =>
        cases ht with
        | same => exact absurd rfl (hne _)
    · exact h

theorem Stuck.dropEquals {ts : List Token} (h : Stuck ts) : Stuck (dropEquals ts) := by
  unfold SheetPress.dropEquals
  split
  · exact h.of_symbol_cons
  · exact h

theorem notMem_dropEquals {t : Token} {ts : List Token} (h : t ∉ ts) : t ∉ dropEquals ts := by
  unfold dropEquals
  split
  · exact fun hmem => h (List.mem_cons_of_mem _ hmem)
  · exact h

/-- If one of two texts that differ in addresses only is a formula, so is the other, and both have the
same value. -/
theorem BoundAlike.parseFormula {g g' : Grid} {s t : List Char} {e : Expr}
    (h : BoundAlike (SameCell g g') false s t)
    (hparse : SheetPress.parseFormula (String.ofList s) = .ok e) :
    ∃ e', SheetPress.parseFormula (String.ofList t) = .ok e' ∧
      e.eval (.single g) = e'.eval (.single g') := by
  unfold SheetPress.parseFormula tokenize at hparse ⊢
  rw [String.toList_ofList] at hparse ⊢
  rw [parseTokens_eq_ok_iff] at hparse
  have hmark : .symbol .exclamation ∉ tokensOf s := fun hmem =>
    h.notMem.1 (mem_of_symbol_mem hmem '!' (by decide))
  cases h.tokensAlike with
  | stuck hs ht => exact absurd hs.dropEquals (hparse.not_stuck (notMem_dropEquals hmark))
  | alike halike =>
    obtain ⟨e', hderives, hsame⟩ := hparse.exists_sameOver (by simp) halike.dropEquals
    exact ⟨e', parseTokens_eq_ok_iff.2 hderives, hsame.value⟩

end SheetPress
