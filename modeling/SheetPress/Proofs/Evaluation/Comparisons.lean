import Mathlib
import SheetPress.Evaluation.Basic

/-!
# Comparisons that agree with each other

The operators `<`, `>`, `<=` and `>=` read their operands in one order, and `=` and `<>` in one
equality.  The two are not the same: the order takes operands of different kinds as numbers and
compares numbers exactly, while equality wants operands of one kind and takes numbers that lie close
together for equal.  So `<=` may hold where neither `<` nor `=` does, and `=` where `>` does.

* `close_iff_isFinite` — of equal numbers, the finite ones are close together.
* `Value.comparisonsAgree_iff` — the operators agree exactly if the order calls equal what equality does.
* `Value.ComparesAlike` — the operands that this holds for, kind by kind.
* `Value.comparisons_agree` — for which operands the operators agree, and what holds for all.
-/

namespace SheetPress

/-! ## Numbers -/

section Numbers

open Float.Model Float.Model.UnpackedFloat

variable {x y : Float}

theorem beq_iff_compare :
    (x == y) = true ↔ x.toModel.unpack.compare y.toModel.unpack = some .eq := by
  change (x.toModel.unpack.compare y.toModel.unpack == some .eq) = true ↔ _
  exact beq_iff_eq

theorem lt_iff_compare : x < y ↔ x.toModel.unpack.compare y.toModel.unpack = some .lt := by
  change decide (x.toModel < y.toModel) = true ↔ _
  rw [decide_eq_true_iff]
  change (x.toModel.unpack.compare y.toModel.unpack == some .lt) = true ↔ _
  exact beq_iff_eq

theorem not_lt_of_beq (h : (x == y) = true) : ¬ x < y := by
  rw [lt_iff_compare, beq_iff_compare.1 h]
  exact nofun

/-- A number taken from an equal one leaves zero, or no number if it is infinite. -/
theorem exists_sub_eq_of_beq (h : (x == y) = true) :
    ∃ sign, UnpackedFloat.sub Format.binary64 x.toModel.unpack y.toModel.unpack =
      if x.isFinite then .zero sign else .notANumber := by
  have hfinite : x.isFinite = x.toModel.unpack.isFinite := rfl
  have hequal : x.toModel.unpack.beq y.toModel.unpack = true := h
  rw [beq_iff_ne_notANumber_and_eq] at hequal
  rw [hfinite]
  generalize x.toModel.unpack = a at hequal ⊢
  generalize y.toModel.unpack = b at hequal ⊢
  obtain ⟨ha, -, rfl | ⟨rfl, rfl⟩ | ⟨rfl, rfl⟩⟩ := hequal
  · refine ⟨.positive, ?_⟩
    cases a with
    | infinity sign => cases sign <;> rfl
    | notANumber => exact absurd rfl ha
    | zero sign => cases sign <;> rfl
    | finite sign mantissa exponent hpos =>
      simp [UnpackedFloat.sub, UnpackedFloat.isFinite, UnpackedFloat.normalize]
  · exact ⟨.positive, rfl⟩
  · exact ⟨.negative, rfl⟩

/-- Two numbers are close together. -/
def Close (x y : Float) : Prop := (x - y).abs < Value.tolerance

instance (x y : Float) : Decidable (Close x y) :=
  inferInstanceAs (Decidable ((x - y).abs < Value.tolerance))

/-- Equal numbers are close together, but for infinite ones, whose difference is no number. -/
theorem close_iff_isFinite (h : (x == y) = true) : Close x y ↔ x.isFinite = true := by
  obtain ⟨sign, hsign⟩ := exists_sub_eq_of_beq h
  have hsub : x - y = .ofModel (pack (if x.isFinite then .zero sign else .notANumber)) :=
    congrArg (Float.ofModel ∘ pack) hsign
  have hvalues (finite : Bool) (sign : Sign) :
      (Float.ofModel (pack (if finite then .zero sign else .notANumber))).abs < Value.tolerance ↔
        finite = true := by
    cases finite <;> cases sign <;> decide
  rw [Close, hsub]
  exact hvalues x.isFinite sign

theorem compareNumbers?_eq_some_eq_iff :
    Value.compareNumbers? x y = some .eq ↔ (x == y) = true := by
  unfold Value.compareNumbers?
  constructor
  · intro h
    split at h
    · cases h
    · split at h
      · assumption
      · split at h <;> cases h
  · intro h
    rw [if_neg (not_lt_of_beq h), if_pos h]

theorem exists_compareNumbers?_of_lt (h : x < y ∨ y < x) :
    ∃ order, Value.compareNumbers? x y = some order ∧ order ≠ .eq := by
  unfold Value.compareNumbers?
  split
  · exact ⟨.lt, rfl, nofun⟩
  · next hlt =>
    have hgt : y < x := h.resolve_left hlt
    rw [if_neg fun heq => not_lt_of_beq (BEq.symm heq) hgt, if_pos hgt]
    exact ⟨.gt, rfl, nofun⟩

theorem lt_of_compareNumbers? {order : Ordering} (h : Value.compareNumbers? x y = some order)
    (hne : order ≠ .eq) : x < y ∨ y < x := by
  unfold Value.compareNumbers? at h
  split at h
  · exact .inl ‹_›
  · split at h
    · exact absurd (Option.some.inj h).symm hne
    · split at h
      · exact .inr ‹_›
      · cases h

end Numbers

/-! ## Operators that agree -/

namespace Value

/-- Whether a value is the truth value true. -/
def isTrue : Value → Bool
  | boolean b => b
  | _ => false

/-- The comparison operators agree on two operands: where they give truth values, `<=` holds if `<` or
`=` does, `>=` if `>` or `=` does, `<>` if `=` does not, and exactly one of `<`, `=` and `>` holds. -/
structure ComparisonsAgree (left right : Value) : Prop where
  lessEqual : ∀ b, BinaryOp.lessEqual.eval left right = .boolean b →
    b = ((BinaryOp.less.eval left right).isTrue || (BinaryOp.equal.eval left right).isTrue)
  greaterEqual : ∀ b, BinaryOp.greaterEqual.eval left right = .boolean b →
    b = ((BinaryOp.greater.eval left right).isTrue || (BinaryOp.equal.eval left right).isTrue)
  notEqual : ∀ b, BinaryOp.notEqual.eval left right = .boolean b →
    b = !(BinaryOp.equal.eval left right).isTrue
  exactlyOne : ∀ b, BinaryOp.less.eval left right = .boolean b →
    ([BinaryOp.less, .equal, .greater].countP fun op => (op.eval left right).isTrue) = 1

/-- Two operands that the order calls equal exactly if equality does.  Texts and truth values are so
among themselves.  Numbers are if equal ones are finite and others are not close together.  Operands of
different kinds and ranges are never equal, so they must not be equal as numbers. -/
def ComparesAlike : Value → Value → Prop
  | number x, number y =>
    ((x == y) = true → x.isFinite = true) ∧ (x < y ∨ y < x → ¬ Close x y)
  | text _, text _ => True
  | boolean _, boolean _ => True
  | left, right => ∀ x y, left.asNumber? = some x → right.asNumber? = some y → (x == y) = false

variable {left right : Value}

theorem asNumber?_of_isError (h : left.isError = true) : left.asNumber? = none := by
  cases left with
  | error e => rfl
  | _ => cases h

theorem compare?_of_isError (h : left.isError = true ∨ right.isError = true) :
    compare? left right = none := by
  unfold compare?
  split
  · rcases h with h | h <;> cases h
  · rcases h with h | h
    · rw [asNumber?_of_isError h]
      rfl
    · rw [asNumber?_of_isError h]
      cases left.asNumber? <;> rfl

/-- An operator between operands of which one is an error. -/
theorem eval_of_isError (op : BinaryOp) (h : left.isError = true ∨ right.isError = true) (b : Bool) :
    op.eval left right ≠ .boolean b := by
  unfold BinaryOp.eval
  split
  · next hleft =>
    rintro rfl
    cases hleft
  · next hleft =>
    rw [if_pos (h.resolve_left hleft)]
    rintro rfl
    exact h.elim hleft nofun

@[simp]
theorem isTrue_boolean (b : Bool) : (boolean b).isTrue = b := rfl

theorem isTrue_test (holds : Ordering → Bool) (left right : Value) :
    (test holds left right).isTrue = (compare? left right).any holds := by
  unfold test
  cases compare? left right <;> rfl

theorem test_eq_boolean_iff {holds : Ordering → Bool} {b : Bool} :
    test holds left right = .boolean b ↔ (compare? left right).map holds = some b := by
  unfold test
  cases compare? left right with
  | none => exact ⟨nofun, nofun⟩
  | some order => simp

/-- The comparison operators between operands that are no errors. -/
theorem eval_of_isError_eq_false (hleft : left.isError = false) (hright : right.isError = false) :
    (BinaryOp.less.eval left right = test (· == .lt) left right ∧
      BinaryOp.greater.eval left right = test (· == .gt) left right) ∧
    (BinaryOp.lessEqual.eval left right = test (· != .gt) left right ∧
      BinaryOp.greaterEqual.eval left right = test (· != .lt) left right) ∧
    BinaryOp.equal.eval left right = .boolean (left.equal right) ∧
      BinaryOp.notEqual.eval left right = .boolean (!left.equal right) := by
  unfold BinaryOp.eval
  rw [hleft, hright]
  exact ⟨⟨rfl, rfl⟩, ⟨rfl, rfl⟩, rfl, rfl⟩

/-- The operators agree exactly if the order calls equal what equality does. -/
theorem comparisonsAgree_iff :
    ComparisonsAgree left right ↔
      ∀ order, compare? left right = some order → left.equal right = (order == .eq) := by
  by_cases herror : left.isError = true ∨ right.isError = true
  · have hnone (op : BinaryOp) (b : Bool) := eval_of_isError op herror b
    constructor
    · intro _ order horder
      rw [compare?_of_isError herror] at horder
      cases horder
    · intro _
      exact ⟨fun b h => absurd h (hnone _ b), fun b h => absurd h (hnone _ b),
        fun b h => absurd h (hnone _ b), fun b h => absurd h (hnone _ b)⟩
  · simp only [not_or, Bool.not_eq_true] at herror
    obtain ⟨⟨hless, hgreater⟩, ⟨hlessEqual, hgreaterEqual⟩, hequal, hnotEqual⟩ :=
      eval_of_isError_eq_false herror.1 herror.2
    constructor
    · intro h order horder
      have hle := h.lessEqual (order != .gt)
      have hone := h.exactlyOne (order == .lt)
      simp only [hless, hgreater, hlessEqual, hequal, test_eq_boolean_iff, isTrue_test,
        isTrue_boolean, horder, Option.map_some, Option.any_some, List.countP_cons,
        List.countP_nil, forall_const] at hle hone
      revert hle hone
      cases order <;> cases left.equal right <;> decide
    · intro h
      refine ⟨fun b hb => ?_, fun b hb => ?_, fun b hb => ?_, fun b hb => ?_⟩
      · rw [hlessEqual, test_eq_boolean_iff] at hb
        obtain ⟨order, horder, rfl⟩ := Option.map_eq_some_iff.1 hb
        rw [hless, hequal, isTrue_test, isTrue_boolean, horder, h order horder]
        cases order <;> rfl
      · rw [hgreaterEqual, test_eq_boolean_iff] at hb
        obtain ⟨order, horder, rfl⟩ := Option.map_eq_some_iff.1 hb
        rw [hgreater, hequal, isTrue_test, isTrue_boolean, horder, h order horder]
        cases order <;> rfl
      · rw [hnotEqual] at hb
        rw [hequal, isTrue_boolean, ← boolean.inj hb]
      · rw [hless, test_eq_boolean_iff] at hb
        obtain ⟨order, horder, rfl⟩ := Option.map_eq_some_iff.1 hb
        simp only [List.countP_cons, List.countP_nil, hless, hgreater, hequal, isTrue_test,
          isTrue_boolean, horder, h order horder]
        cases order <;> rfl

/-- For which operands the order calls equal what equality does. -/
theorem comparesAlike_iff :
    ComparesAlike left right ↔
      ∀ order, compare? left right = some order → left.equal right = (order == .eq) := by
  unfold ComparesAlike
  split
  · next x y =>
    change _ ↔ ∀ order, compareNumbers? x y = some order → decide (Close x y) = (order == .eq)
    constructor
    · rintro ⟨hfinite, hfar⟩ order horder
      by_cases heq : order = .eq
      · rw [heq, compareNumbers?_eq_some_eq_iff] at horder
        rw [heq, decide_eq_true ((close_iff_isFinite horder).2 (hfinite horder))]
        rfl
      · rw [decide_eq_false (hfar (lt_of_compareNumbers? horder heq)), beq_false_of_ne heq]
    · intro h
      refine ⟨fun heq => ?_, fun hlt => ?_⟩
      · have hclose := h .eq (compareNumbers?_eq_some_eq_iff.2 heq)
        exact (close_iff_isFinite heq).1 (of_decide_eq_true hclose)
      · obtain ⟨order, horder, hne⟩ := exists_compareNumbers?_of_lt hlt
        have hclose := h order horder
        rw [beq_false_of_ne hne] at hclose
        exact of_decide_eq_false hclose
  · next s t =>
    refine iff_of_true trivial fun order horder => ?_
    obtain rfl := Option.some.inj horder
    change (toLowerText s == toLowerText t) = _
    rw [Bool.eq_iff_iff, beq_iff_eq, beq_iff_eq, Std.LawfulEqOrd.compare_eq_iff_eq]
  · next a b =>
    refine iff_of_true trivial ?_
    cases a <;> cases b <;> decide
  · next hnumbers htexts hbooleans =>
    have hequal : left.equal right = false := by
      unfold equal
      split
      · exact absurd rfl (hnumbers _ _ rfl)
      · exact absurd rfl (htexts _ _ rfl)
      · exact absurd rfl (hbooleans _ _ rfl)
      · rfl
    have hcompare (order : Ordering) : compare? left right = some order ↔
        ∃ x y, left.asNumber? = some x ∧ right.asNumber? = some y ∧
          compareNumbers? x y = some order := by
      unfold compare?
      split
      · exact absurd rfl (htexts _ _ rfl)
      · simp [Option.bind_eq_some_iff]
    simp only [hcompare, hequal]
    constructor
    · rintro h order ⟨x, y, hx, hy, horder⟩
      refine (beq_false_of_ne ?_).symm
      rintro rfl
      rw [compareNumbers?_eq_some_eq_iff, h x y hx hy] at horder
      cases horder
    · intro h x y hx hy
      by_contra heq
      rw [Bool.not_eq_false, ← compareNumbers?_eq_some_eq_iff] at heq
      exact Bool.false_ne_true (h .eq ⟨x, y, hx, hy, heq⟩)

/-- Two operators that negate each other on operands that are no errors. -/
theorem eval_iff_eval_not {op op' : BinaryOp} {b : Bool}
    (h : left.isError = false → right.isError = false →
      (op.eval left right = .boolean b ↔ op'.eval left right = .boolean !b)) :
    op.eval left right = .boolean b ↔ op'.eval left right = .boolean !b := by
  by_cases herror : left.isError = true ∨ right.isError = true
  · exact iff_of_false (eval_of_isError op herror b) (eval_of_isError op' herror !b)
  · simp only [not_or, Bool.not_eq_true] at herror
    exact h herror.1 herror.2

/-- The comparison operators against each other, for every two operands.  Each of `=`, `<` and `>` is
the negation of `<>`, `>=` and `<=`.  All of them agree exactly if the operands are such that the order
calls equal what equality does. -/
theorem comparisons_agree (left right : Value) :
    (∀ b, BinaryOp.equal.eval left right = .boolean b ↔
      BinaryOp.notEqual.eval left right = .boolean !b) ∧
    (∀ b, BinaryOp.less.eval left right = .boolean b ↔
      BinaryOp.greaterEqual.eval left right = .boolean !b) ∧
    (∀ b, BinaryOp.greater.eval left right = .boolean b ↔
      BinaryOp.lessEqual.eval left right = .boolean !b) ∧
    (ComparisonsAgree left right ↔ ComparesAlike left right) := by
  refine ⟨fun b => ?_, fun b => ?_, fun b => ?_, comparisonsAgree_iff.trans comparesAlike_iff.symm⟩
  · exact eval_iff_eval_not fun hleft hright => by
      simp [eval_of_isError_eq_false hleft hright]
  · exact eval_iff_eval_not fun hleft hright => by
      simp only [eval_of_isError_eq_false hleft hright, test_eq_boolean_iff]
      cases compare? left right <;> simp [bne]
  · exact eval_iff_eval_not fun hleft hright => by
      simp only [eval_of_isError_eq_false hleft hright, test_eq_boolean_iff]
      cases compare? left right <;> simp [bne]

/-- The operators do not agree on the text `5` and the number 5, on a truth value and the number 1, on
two numbers that are nearly equal, and on a range that holds the number 1 and that number. -/
theorem comparisons_disagree :
    ¬ ComparisonsAgree (.text "5") (.number 5.0) ∧
      ¬ ComparisonsAgree (.boolean true) (.number 1.0) ∧
      ¬ ComparisonsAgree (.number (0.1 + 0.2)) (.number 0.3) ∧
      ¬ ComparisonsAgree (.array [.number 1.0]) (.number 1.0) := by
  have hagree {left right : Value} (order : Ordering) (horder : compare? left right = some order)
      (hequal : left.equal right ≠ (order == .eq)) : ¬ ComparisonsAgree left right := by
    rw [comparisonsAgree_iff]
    exact fun h => hequal (h order horder)
  exact ⟨hagree .eq (by decide +kernel) (by decide), hagree .eq (by decide +kernel) (by decide),
    hagree .gt (by decide +kernel) (by decide), hagree .eq (by decide +kernel) (by decide)⟩

end Value

end SheetPress
