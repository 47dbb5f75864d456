import Mathlib
import SheetPress.Proofs.Formula.Names
import SheetPress.Proofs.Formula.Parsing

/-!
# What the parser accepts

The parser accepts what the grammar derives and nothing else.

* `Derives.loosen` — a phrase is also a phrase of every looser kind.
* `parseTokens_accepts` — the parser is the grammar: it accepts the same lists of tokens, gives the
  one expression that they stand for, and takes the names for references that spell one.
-/

namespace SheetPress

/-! ## Looser phrases -/

/-- The order of the kinds of phrases: every phrase is one of the looser kinds, too. -/
def Phrase.looseness : Phrase → Nat
  | primary => 0
  | percented => 1
  | power => 2
  | signed => 3
  | chain level => 3 + level.height

theorem Level.looseness_operand (level : Level) :
    level.operand.looseness + 1 = (Phrase.chain level).looseness := by
  cases level <;> rfl

theorem Phrase.looseness_inj {phrase phrase' : Phrase} (h : phrase.looseness = phrase'.looseness) :
    phrase = phrase' := by
  rcases phrase with (_ | _ | _ | _) | _ | _ | _ | _ <;>
    rcases phrase' with (_ | _ | _ | _) | _ | _ | _ | _ <;> first | rfl | cases h

/-- A phrase is also a phrase of every looser kind. -/
theorem Derives.loosen {phrase slot : Phrase} {ts : List Token} {e : Expr} (h : Derives phrase ts e)
    (hle : phrase.looseness ≤ slot.looseness) : Derives slot ts e := by
  rcases hle.eq_or_lt with heq | hlt
  · rwa [← Phrase.looseness_inj heq]
  · match slot with
    | .primary => exact absurd hlt (Nat.not_lt_zero _)
    | .percented =>
      have hprimary : Derives .primary ts e := h.loosen (Nat.le_of_lt_succ hlt)
      exact .unmarked hprimary
    | .power =>
      have hpercented : Derives .percented ts e := h.loosen (Nat.le_of_lt_succ hlt)
      exact .base hpercented
    | .signed =>
      have hpower : Derives .power ts e := h.loosen (Nat.le_of_lt_succ hlt)
      exact .unsigned hpower
    | .chain level =>
      rw [← level.looseness_operand] at hlt
      have hoperand : Derives level.operand ts e := h.loosen (Nat.le_of_lt_succ hlt)
      exact .operand hoperand
termination_by slot.looseness
decreasing_by
  all_goals first
    | decide
    | (rw [← level.looseness_operand]; exact Nat.lt_succ_self _)

theorem Phrase.looseness_le (phrase : Phrase) :
    phrase.looseness ≤ (Phrase.chain .comparison).looseness := by
  rcases phrase with (_ | _ | _ | _) | _ | _ | _ | _ <;> decide

/-- The tokens of a phrase stand for one expression. -/
theorem Derives.expr_eq {phrase : Phrase} {ts : List Token} {e e' : Expr} (h : Derives phrase ts e)
    (h' : Derives phrase ts e') : e = e' :=
  (h.loosen phrase.looseness_le).unique (h'.loosen phrase.looseness_le)

/-! ## The parser is the grammar -/

/-- No phrase begins with an equals sign. -/
theorem Derives.dropEquals_eq {phrase : Phrase} {ts : List Token} {e : Expr}
    (h : Derives phrase ts e) : dropEquals ts = ts := by
  obtain ⟨t, us, rfl, hopens⟩ := h.exists_cons
  unfold dropEquals
  split
  · next heq =>
    cases heq
    cases phrase <;> cases hopens _ rfl
  · rfl

theorem derives_dropEquals_iff {tokens : List Token} {e : Expr} :
    Derives (.chain .comparison) (dropEquals tokens) e ↔
      ∃ ts, (tokens = ts ∨ tokens = .symbol .equals :: ts) ∧ Derives (.chain .comparison) ts e := by
  constructor
  · intro h
    refine ⟨dropEquals tokens, ?_, h⟩
    unfold dropEquals
    split
    · exact Or.inr rfl
    · exact Or.inl rfl
  · rintro ⟨ts, rfl | rfl, h⟩
    · rwa [h.dropEquals_eq]
    · exact h

/-- The parser accepts exactly the grammar of formulas.

* A list of tokens is read as an expression exactly if the grammar derives that expression from it,
  or from what stands behind its leading equals sign.
* The tokens of a phrase of any kind stand for at most one expression.
* The names that count as references to cells and to whole columns are those that spell one. -/
theorem parseTokens_accepts :
    (∀ tokens e, parseTokens tokens = .ok e ↔
      ∃ ts, (tokens = ts ∨ tokens = .symbol .equals :: ts) ∧ Derives (.chain .comparison) ts e) ∧
    (∀ phrase ts, {e | Derives phrase ts e}.Subsingleton) ∧
    (∀ name ref, cellRef name = .ok ref ↔ SpellsCell name ref) ∧
    ∀ name ref, columnRef? name = some ref ↔ SpellsColumn name ref := by
  refine ⟨fun tokens e => ?_, fun phrase ts e h e' h' => ?_, fun name ref => ?_, fun name ref => ?_⟩
  · rw [parseTokens_eq_ok_iff]
    exact derives_dropEquals_iff
  · exact Derives.expr_eq h h'
  · exact cellRef_eq_ok_iff
  · exact columnRef?_eq_some_iff

end SheetPress
