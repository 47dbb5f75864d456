import Mathlib
import SheetPress.Proofs.Formula.Foreign
import SheetPress.Proofs.Formula.Scanning
import SheetPress.Proofs.Sheet.RemoveLines
import SheetPress.Sheet.Recalculation

/-!
# Formulas that lose a reference

A reference that lies wholly in a deleted line is written as `#REF!`.  No token of a formula begins
with `#`, so that the whole formula is malformed then, whatever stands around the reference.  A
formula that loses none of its references keeps to its cells.

* `parseFormula_formula_iff` — a formula parses afterwards exactly if it loses no reference.
* `Worksheet.formulaValue_remove` — what a formula gives after a deletion.
-/

namespace SheetPress

/-- A reference to cells of the own sheet all of whose corners an edit reaches. -/
def Expr.Reached (k : Removal) : Expr → Prop
  | .cell none a => k.Reaches a
  | .range none a b => k.Reaches a ∧ k.Reaches b
  | _ => False

/-- A reference to cells that lies wholly in the line. -/
def Expr.Lost (k : Removal) : Expr → Prop
  | .cell _ a => ¬ k.Leaves a a
  | .range _ a b => ¬ k.Leaves a b
  | _ => False

section References

variable {k : Removal} {r : Expr}

theorem Expr.Reached.survives (h : r.Reached k) (hlost : ¬ r.Lost k) : r.Survives k := by
  match r, h with
  | .cell none a, h => exact ⟨h, not_not.1 hlost⟩
  | .range none a b, h => exact ⟨h.1, h.2, not_not.1 hlost⟩

/-- A reference that moves is not lost. -/
theorem Removal.leaves_of_moved {a b : CellRef} {first last : Nat}
    (h : removeFromSpan k.removed (k.line a) (k.line b) = .moved first last) : k.Leaves a b := by
  rintro ⟨ha, hb⟩
  rw [ha, hb] at h
  simp [removeFromSpan] at h

theorem Removal.removeFromSpan_eq_gone {a b : CellRef} (h : ¬ k.Leaves a b) :
    removeFromSpan k.removed (k.line a) (k.line b) = .gone := by
  obtain ⟨ha, hb⟩ := not_not.1 h
  simp [removeFromSpan, ha, hb]

/-- The edit of the text writes an error in place of a reference that is lost. -/
theorem exists_reference_of_lost (h : r.Reached k) (hlost : r.Lost k) :
    ∃ ref, r.reference? = some ref ∧ k.edit ref = some referenceErrorText := by
  match r, h, hlost with
  | .cell none a, h, hlost =>
    refine ⟨⟨a, none, false⟩, rfl, ?_⟩
    rw [@Removal.edit_eq k a none h h, Option.getD_none, Removal.removeFromSpan_eq_gone hlost]
  | .range none a b, h, hlost =>
    refine ⟨⟨a, some b, false⟩, rfl, ?_⟩
    rw [@Removal.edit_eq k a (some b) h.1 h.2, Option.getD_some,
      Removal.removeFromSpan_eq_gone hlost]

/-- The edit of the text writes no quotes. -/
theorem isQuote_of_edit {a : CellRef} {last : Option CellRef} (ha : k.Reaches a)
    (hlast : k.Reaches (last.getD a)) (hwritten : a.Written) (hwritten' : ∀ b ∈ last, b.Written) :
    ∀ new ∈ k.edit ⟨a, last, false⟩, ∀ c ∈ new.toList, isQuote c = false := by
  intro new hnew
  rw [Removal.edit_eq ha hlast] at hnew
  cases hspan : removeFromSpan k.removed (k.line a) (k.line (last.getD a)) with
  | kept =>
    rw [hspan] at hnew
    cases hnew
  | gone =>
    rw [hspan] at hnew
    obtain rfl : referenceErrorText = new := by simpa using hnew
    exact forall_mem_of_all (by decide)
  | moved first next =>
    rw [hspan] at hnew
    obtain rfl := Option.some.inj hnew
    have hwritten'' : (last.getD a).Written := by
      cases last with
      | none => exact hwritten
      | some b => exact hwritten' b rfl
    obtain ⟨hfirst, hnext⟩ :=
      Removal.written_of_moved hwritten hwritten'' (Removal.leaves_of_moved hspan) hspan
    have hmoved : Reference.Written ⟨k.withLine a first, last.map (k.withLine · next), false⟩ := by
      refine ⟨hfirst, fun b hb => ?_⟩
      obtain ⟨b, hlast, rfl⟩ := Option.map_eq_some_iff.1 hb
      rwa [hlast] at hnext
    rw [Reference.toList_text]
    exact hmoved.spelled.isQuote_eq_false

theorem Expr.Reached.isQuote_of_edit (h : r.Reached k) (hwritten : r.Written) {ref : Reference}
    (href : r.reference? = some ref) :
    ∀ new ∈ k.edit ref, ∀ c ∈ new.toList, isQuote c = false := by
  match r, h, hwritten with
  | .cell none a, h, hwritten =>
    obtain rfl := Option.some.inj href
    exact SheetPress.isQuote_of_edit h h hwritten (by simp)
  | .range none a b, h, hwritten =>
    obtain rfl := Option.some.inj href
    exact SheetPress.isQuote_of_edit h.1 h.2 hwritten.1 (by simpa using hwritten.2)

end References

/-! ## Formulas -/

section Formulas

variable {k : Removal} {formula : String} {e : Expr}

/-- The error that is written in place of a lost reference stands outside of quotes. -/
theorem mem_outsideQuotes_of_lost (h : IsPlain formula e) (hreached : ∀ r ∈ e.references, r.Reached k)
    {r : Expr} (hr : r ∈ e.references) (hlost : r.Lost k) :
    '#' ∈ outsideQuotes none (k.formula formula).toList := by
  rw [k.formula_eq, mapReferences_eq_editedFrom, String.toList_ofList]
  have hscanned := h.scannedFrom_eq
  obtain ⟨ref, href, hedit⟩ := exists_reference_of_lost (hreached r hr) hlost
  -- the scanner finds the references of the expression and no others
  obtain ⟨piece, hpiece, hread⟩ : ∃ piece ∈ piecesFrom none none formula.toList,
      piece.reference? = some ref := by
    rw [← List.mem_filterMap, ← scannedFrom, hscanned]
    exact List.mem_filterMap.2 ⟨r, hr, href⟩
  cases piece with
  | char c => cases hread
  | reference source found =>
    obtain rfl := Option.some.inj hread
    refine mem_outsideQuotes_editedFrom (by simp) ?_ hpiece hedit (by decide)
    intro source ref hmem
    obtain ⟨r', hr', href'⟩ : ∃ r' ∈ e.references, r'.reference? = some ref := by
      rw [← List.mem_filterMap, ← hscanned, scannedFrom]
      exact List.mem_filterMap.2 ⟨_, hmem, rfl⟩
    exact (hreached r' hr').isQuote_of_edit (written_of_parseFormula h.parses r' hr') href'

theorem parseFormula_formula_of_lost (h : IsPlain formula e)
    (hreached : ∀ r ∈ e.references, r.Reached k) (hlost : ∃ r ∈ e.references, r.Lost k) (e' : Expr) :
    parseFormula (k.formula formula) ≠ .ok e' := by
  obtain ⟨r, hr, hlost⟩ := hlost
  exact parseFormula_ne_ok_of_isForeign (by decide +kernel)
    (mem_outsideQuotes_of_lost h hreached hr hlost) e'

theorem parseFormula_formula_of_not_lost (h : IsPlain formula e)
    (hreached : ∀ r ∈ e.references, r.Reached k) (hlost : ∀ r ∈ e.references, ¬ r.Lost k) :
    parseFormula (k.formula formula) = .ok (e.mapReferences (Expr.remove k)) := by
  rw [k.formula_eq]
  exact h.parseFormula_mapReferences fun r hr =>
    editedTo_remove ((hreached r hr).survives (hlost r hr)) (written_of_parseFormula h.parses r hr)

/-- A formula parses after a deletion exactly if it loses no reference. -/
theorem parseFormula_formula_iff (h : IsPlain formula e)
    (hreached : ∀ r ∈ e.references, r.Reached k) :
    (∃ e', parseFormula (k.formula formula) = .ok e') ↔ ∀ r ∈ e.references, ¬ r.Lost k := by
  constructor
  · rintro ⟨e', he'⟩ r hr hlost
    exact parseFormula_formula_of_lost h hreached ⟨r, hr, hlost⟩ e' he'
  · exact fun hlost => ⟨_, parseFormula_formula_of_not_lost h hreached hlost⟩

end Formulas

theorem formulaValue_of_parses (scope : Scope) {formula : String} {e : Expr}
    (h : parseFormula formula = .ok e) : formulaValue scope formula = (e.eval scope).toCell := by
  rw [formulaValue, h]

theorem formulaValue_of_ne_ok (scope : Scope) {formula : String}
    (h : ∀ e, parseFormula formula ≠ .ok e) : formulaValue scope formula = .error .malformed := by
  unfold formulaValue
  split
  · next e he => exact absurd he (h e)
  · rfl

/-- A formula is found where its cell has moved to.  It parses exactly if no reference of it lies
wholly in the deleted line; it then gives the value of its expression with the references moved, each
of which visits the cells that it visited before, less those of the line.  A formula that lost a
reference is malformed, wherever the reference stands in it.  Machine numbers rewrite formulas so if
the number of the line, which for rows counts from 1, is one of them. -/
theorem Worksheet.formulaValue_remove (k : Removal) (w : Worksheet) {place target : Coord}
    {formula : String} {e : Expr} (hplace : k.place? place = some target)
    (hformula : w.formula? place = some formula) (hplain : IsPlain formula e)
    (hreached : ∀ r ∈ e.references, r.Reached k) :
    (k.sheet w).formula? target = some (k.formula formula) ∧
      ((∃ e', parseFormula (k.formula formula) = .ok e') ↔ ∀ r ∈ e.references, ¬ r.Lost k) ∧
      ((∀ r ∈ e.references, ¬ r.Lost k) →
        (∀ r ∈ e.references, KeepsCells k w r (r.remove k)) ∧
          ∀ scope, formulaValue scope (k.formula formula) =
            ((e.mapReferences (Expr.remove k)).eval scope).toCell) ∧
      ((∃ r ∈ e.references, r.Lost k) →
        ∀ scope, formulaValue scope (k.formula formula) = .error .malformed) ∧
      (k.removed < indexLimit → k.checkedFormula formula = pure (k.formula formula)) := by
  refine ⟨?_, parseFormula_formula_iff hplain hreached, fun hlost => ⟨fun r hr => ?_, fun scope => ?_⟩,
    fun hlost scope => ?_, fun hremoved => k.checkedFormula_eq hremoved formula⟩
  · rw [k.formula?_sheet w hplace, hformula]
    rfl
  · exact keepsCells_remove w ((hreached r hr).survives (hlost r hr))
      (written_of_parseFormula hplain.parses r hr)
  · exact formulaValue_of_parses scope (parseFormula_formula_of_not_lost hplain hreached hlost)
  · exact formulaValue_of_ne_ok scope (parseFormula_formula_of_lost hplain hreached hlost)

/-- A sheet with a text in its first cell, and a formula below that falls back on another text. -/
def fallbackSheet : Worksheet where
  name := "Sheet1"
  grid := (({} : Grid).set ⟨0, 0⟩ (.ofValue (.text "total"))).set ⟨1, 1⟩
    { formula := some "=IFERROR(A1,\"none\")" }

/-- The formula `=IFERROR(A1,"none")`. -/
def fallback : FormulaTree :=
  .call ⟨"IFERROR", ⟨_, _, rfl, by decide⟩, forall_mem_of_all (by decide),
      forall_mem_of_all (by decide), by decide⟩
    [.cell none ⟨⟨"A", 1, false, false⟩, by decide, forall_mem_of_all (by decide), by decide,
      by decide⟩, .text "none"]

theorem isPlain_fallback : IsPlain "=IFERROR(A1,\"none\")" fallback.expr where
  parses := fallback.spells.parseFormula_eq.2
  isBlank := forall_mem_of_all (by decide +kernel)
  isLower := forall_mem_of_all (by decide +kernel)

theorem formula?_fallbackSheet : fallbackSheet.formula? ⟨1, 1⟩ = some "=IFERROR(A1,\"none\")" := by
  simp [Worksheet.formula?, Worksheet.cell?, fallbackSheet, Grid.get?_set]

/-- The first row goes, and with it the reference of the formula below. -/
theorem Worksheet.formulaValue_remove_fallbackSheet :
    (Removal.row 0).place? ⟨1, 1⟩ = some ⟨0, 1⟩ ∧
      fallbackSheet.formula? ⟨1, 1⟩ = some "=IFERROR(A1,\"none\")" ∧
      IsPlain "=IFERROR(A1,\"none\")" fallback.expr ∧
      (∀ r ∈ fallback.expr.references, r.Reached (.row 0)) ∧
      (∃ r ∈ fallback.expr.references, r.Lost (.row 0)) ∧
      ((Removal.row 0).sheet fallbackSheet).formula? ⟨0, 1⟩ = some "=IFERROR(#REF!,\"none\")" ∧
      (∀ scope, formulaValue scope "=IFERROR(#REF!,\"none\")" = .error .malformed) ∧
      (0 + 1 < indexLimit → (Removal.row 0).checkedFormula "=IFERROR(A1,\"none\")" =
        pure "=IFERROR(#REF!,\"none\")") := by
  have hplace : (Removal.row 0).place? ⟨1, 1⟩ = some ⟨0, 1⟩ := by decide
  have hreferences : fallback.expr.references = [.cell none ⟨"A", 1, false, false⟩] := rfl
  have hreached : ∀ r ∈ fallback.expr.references, r.Reached (.row 0) := by
    rw [hreferences, List.forall_mem_singleton]
    trivial
  have hlost : ∃ r ∈ fallback.expr.references, r.Lost (.row 0) := by
    rw [hreferences]
    exact ⟨_, List.mem_singleton_self _, not_not.2 ⟨rfl, rfl⟩⟩
  have hrewritten : (Removal.row 0).formula "=IFERROR(A1,\"none\")" = "=IFERROR(#REF!,\"none\")" := by
    decide +kernel
  have hvalue := Worksheet.formulaValue_remove (.row 0) fallbackSheet hplace formula?_fallbackSheet
    isPlain_fallback hreached
  rw [hrewritten] at hvalue
  exact ⟨hplace, formula?_fallbackSheet, isPlain_fallback, hreached, hlost, hvalue.1,
    hvalue.2.2.2.1 hlost, hvalue.2.2.2.2⟩

/-- With the reference error for an operand the formula falls back: it gives its text if the
reference is read as one to a sheet that is not there.  Rewritten, it does not parse. -/
theorem fallbackSheet_loses_fallback :
    parseFormula "=IFERROR(A1,\"none\")" = .ok (.call "IFERROR"
        [.cell none ⟨"A", 1, false, false⟩, .literal (.text "none")]) ∧
      (∀ grid, (Expr.call "IFERROR" [.cell (some "Gone") ⟨"A", 1, false, false⟩,
        .literal (.text "none")]).eval (.single grid) = .text "none") ∧
      ((Removal.row 0).sheet fallbackSheet).formula? ⟨0, 1⟩ = some "=IFERROR(#REF!,\"none\")" ∧
      (∀ e, parseFormula "=IFERROR(#REF!,\"none\")" ≠ .ok e) ∧
      ∀ scope, formulaValue scope "=IFERROR(#REF!,\"none\")" = .error .malformed := by
  have hplace : (Removal.row 0).place? ⟨1, 1⟩ = some ⟨0, 1⟩ := by decide
  have hparse : ∀ e, parseFormula "=IFERROR(#REF!,\"none\")" ≠ .ok e :=
    parseFormula_ne_ok_of_isForeign (c := '#') (by decide +kernel) (by decide +kernel)
  refine ⟨isPlain_fallback.parses, fun grid => rfl, ?_, hparse, fun scope =>
    formulaValue_of_ne_ok scope hparse⟩
  rw [Removal.formula?_sheet _ _ hplace, formula?_fallbackSheet]
  decide +kernel

end SheetPress
