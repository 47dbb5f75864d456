import Mathlib
import SheetPress.Proofs.Formula.Spelling

/-!
# Printing formulas

A formula tree is printed with the parentheses that the levels of the operators require and no
others, and the parser reads the text back as that tree.

* `FormulaTree` — the trees of formulas that can be written; what they are made of carries the proof
  that it can.
* `FormulaTree.spells` — the text of a tree is a phrase of the kind of its outermost operator.
* `parseFormula_print` — parsing undoes printing.
-/

namespace SheetPress

/-! ## Trees -/

/-- A number as it is written in a formula, and its value. -/
structure WrittenNumber where
  digits : List Char
  value : Float
  isNumeral : IsNumeral digits
  starts : ∃ c more, digits = c :: more ∧ (isAsciiDigit c || c = '.') = true
  reads : readNumber? digits = some value

/-- The trees of formulas without whole rows. A number is kept as it is written; columns and functions
have names in capitals; texts and the names of sheets are arbitrary. -/
inductive FormulaTree where
  | number (n : WrittenNumber)
  | text (s : String)
  | boolean (b : Bool)
  | cell (sheet : Option String) (ref : { r : CellRef // r.Written })
  | range (sheet : Option String) (first last : { r : CellRef // r.Written })
  | columns (sheet : Option String) (first last : { r : ColumnRef // r.Written })
  | binary (op : BinaryOp) (left right : FormulaTree)
  | unary (op : UnaryOp) (operand : FormulaTree)
  | call (name : { name : String // IsFunctionName name }) (args : List FormulaTree)

/-- A text in a place for phrases of some kind: in parentheses if it is a looser phrase. -/
def Phrase.enclose (slot own : Phrase) (text : List Char) : List Char :=
  if own.looseness ≤ slot.looseness then text else '(' :: (text ++ [')'])

/-- The kind of phrase that a sign makes of its operand, which is also what it takes. -/
def UnaryOp.phrase : UnaryOp → Phrase
  | negate => .signed
  | percent => .percented

/-- A sign and its operand. -/
def UnaryOp.attach : UnaryOp → List Char → List Char
  | negate, text => '-' :: text
  | percent, text => text ++ ['%']

namespace FormulaTree

mutual

/-- The expression that a tree stands for. -/
def expr : FormulaTree → Expr
  | number n => .literal (.number n.value)
  | text s => .literal (.text s)
  | boolean b => .literal (.boolean b)
  | cell sheet ref => .cell sheet ref
  | range sheet first last => .range sheet first last
  | columns sheet first last => .columns sheet first last
  | binary op left right => .binary op left.expr right.expr
  | unary op operand => .unary op operand.expr
  | call name args => .call name (exprs args)

/-- The expressions that several trees stand for. -/
def exprs : List FormulaTree → List Expr
  | [] => []
  | arg :: rest => arg.expr :: exprs rest

end

/-- The kind of phrase that a tree is without parentheses around it. -/
def phrase : FormulaTree → Phrase
  | binary op _ _ => op.phrase
  | unary op _ => op.phrase
  | _ => .primary

mutual

/-- The text of a tree. An operand is in parentheses where it is a looser phrase than its operator
takes. -/
def print : FormulaTree → List Char
  | number n => n.digits
  | text s => quoted '"' s.toList
  | boolean b => (booleanText b).toList
  | cell sheet ref => sheetLead sheet ++ ref.val.text.toList
  | range sheet first last =>
    sheetLead sheet ++ (first.val.text.toList ++ ':' :: last.val.text.toList)
  | columns sheet first last => sheetLead sheet ++ (first.val.chars ++ ':' :: last.val.chars)
  | binary op left right =>
    op.leftSlot.enclose left.phrase left.print
      ++ (op.symbol.text.toList ++ op.rightSlot.enclose right.phrase right.print)
  | unary op operand => op.attach (op.phrase.enclose operand.phrase operand.print)
  | call name args => name.val.toList ++ '(' :: ([','].intercalate (printAll args) ++ [')'])

/-- The texts of several trees. -/
def printAll : List FormulaTree → List (List Char)
  | [] => []
  | arg :: rest => arg.print :: printAll rest

end

/-- A tree as a formula. -/
def formula (t : FormulaTree) : String := String.ofList ('=' :: t.print)

end FormulaTree

/-! ## Reading the text of a tree -/

/-- Parentheses stand wherever a phrase would be too loose without them. -/
theorem Spells.enclose {own : Phrase} {text : List Char} {e : Expr} (h : Spells own text e)
    (slot : Phrase) : Spells slot (slot.enclose own text) e := by
  unfold Phrase.enclose
  split
  · next hle => exact h.loosen hle
  · exact h.group.loosen (Nat.zero_le _)

theorem Spells.attach (op : UnaryOp) {text : List Char} {e : Expr} (h : Spells op.phrase text e) :
    Spells op.phrase (op.attach text) (.unary op e) := by
  cases op with
  | negate => exact h.negate
  | percent => exact h.percent

namespace FormulaTree

mutual

/-- The text of a tree spells it, as a phrase of the kind of its outermost operator. -/
theorem spells : ∀ t : FormulaTree, Spells t.phrase t.print t.expr
  | number n => spells_numeral n.isNumeral n.reads n.starts
  | text s => spells_text s
  | boolean b => spells_boolean b
  | cell _ ref => (spells_cell ref.property).spells
  | range _ first last => (spells_range first.property last.property).spells
  | columns _ first last => (spells_columns first.property last.property).spells
  | binary op left right =>
    Spells.binary op (left.spells.enclose op.leftSlot) (right.spells.enclose op.rightSlot)
  | unary op operand => Spells.attach op (operand.spells.enclose op.phrase)
  | call name args => spells_call name.property (spellsAll args)

/-- The texts of the arguments of a call spell them. -/
theorem spellsAll : ∀ args : List FormulaTree,
    List.Forall₂ (Spells (.chain .comparison)) (printAll args) (exprs args)
  | [] => .nil
  | arg :: rest => .cons (arg.spells.loosen arg.phrase.looseness_le) (spellsAll rest)

end

end FormulaTree

/-- Parsing undoes printing: the formula of every tree is read back as the expression that the tree
stands for. -/
theorem parseFormula_print (t : FormulaTree) : parseFormula t.formula = .ok t.expr :=
  t.spells.parseFormula_eq.2

/-- Parentheses stand around a negated base, but around neither the sum to the left of a comparison nor
a negated exponent. -/
example :
    let a : FormulaTree := .cell none
      ⟨⟨"A", 1, false, true⟩, by decide, forall_mem_of_all (by decide), by decide, by decide⟩
    let s : FormulaTree := .text "5\"-2"
    (FormulaTree.binary .less (.binary .subtract a (.binary .add a s))
        (.binary .power (.unary .negate a) (.unary .negate (.unary .percent a)))).formula =
      "=A$1-(A$1+\"5\"\"-2\")<(-A$1)^-A$1%" := by
  decide

end SheetPress
