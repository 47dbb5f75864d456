import Mathlib
import SheetPress.Proofs.Coord.Columns
import SheetPress.Template.Error

/-!
# Checked arithmetic

Rows and columns are natural numbers here, where a difference is never less than 0 and a sum never
too large.  To count with machine numbers, as programs do, is right as long as no difference would be
negative and no sum passes the greatest number.  Computations in checked arithmetic stop where that
is not so.

* `minus_eq`, `plusBelow_eq` — differences and sums that stop nothing.
* `Checked.Follows` — a computation that gives what another one gives, unless it stops before.
* `checkedColumnLetters_eq`, `checkedColumn?_eq` — letters are made from columns and read back
  without stopping.
-/

namespace SheetPress

/-- Why a computation in checked arithmetic stops. -/
inductive Stop where
  /-- The difference of two numbers would be negative. -/
  | below (a b : Nat)
  /-- The sum of two numbers is too large. -/
  | above (a b : Nat)
  /-- A record would be written behind the last row of the sheet. -/
  | pastEnd (row : Nat)
  /-- The template cannot be filled, with whatever arithmetic. -/
  | failed (e : TemplateError)
  deriving DecidableEq, Repr

/-- A computation in checked arithmetic. -/
abbrev Checked := Except Stop

/-- A computation without any arithmetic of its own. -/
def Checked.of (result : Except TemplateError α) : Checked α := result.mapError .failed

theorem Checked.of_ok {α : Type} (a : α) : Checked.of (.ok a) = pure a := rfl

theorem Checked.of_ok_bind {α β : Type} (a : α) (f : α → Except TemplateError β) :
    Checked.of (.ok a >>= f) = Checked.of (f a) := rfl

/-- A computation does what another one does, or it stops for one of some reasons. -/
def Checked.Follows {α : Type} (reason : Stop → Prop) (x y : Checked α) : Prop :=
  x = y ∨ ∃ stop, reason stop ∧ x = .error stop

namespace Checked.Follows

variable {α β : Type} {reason reason' : Stop → Prop} {x y : Checked α} {f : α → Checked β} {a : α}

theorem refl (x : Checked α) : Checked.Follows reason x x := .inl rfl

theorem mono (h : Checked.Follows reason x y) (hreason : ∀ stop, reason stop → reason' stop) :
    Checked.Follows reason' x y :=
  h.imp_right fun ⟨stop, hstop, hx⟩ => ⟨stop, hreason stop hstop, hx⟩

/-- What follows a computation that gives a value goes on with that value. -/
theorem bind_pure {y : Checked β} (h : Checked.Follows reason x (pure a))
    (hf : Checked.Follows reason (f a) y) : Checked.Follows reason (x >>= f) y := by
  rcases h with rfl | ⟨stop, hstop, rfl⟩
  · exact hf
  · exact .inr ⟨stop, hstop, rfl⟩

/-- Where a computation fails, what comes behind it does not matter. -/
theorem bind_error {stop : Stop} (h : Checked.Follows reason x (.error stop)) :
    Checked.Follows reason (x >>= f) (.error stop) := by
  rcases h with rfl | ⟨stop', hstop, rfl⟩
  · exact refl _
  · exact .inr ⟨stop', hstop, rfl⟩

theorem map {b : β} {k : α → β} (h : Checked.Follows reason x (pure a)) (hk : k a = b) :
    Checked.Follows reason (x >>= fun a => pure (k a)) (pure b) :=
  h.bind_pure (.inl (congrArg pure hk))

end Checked.Follows

/-- The difference of two numbers. -/
def minus (a b : Nat) : Checked Nat := if b ≤ a then pure (a - b) else throw (.below a b)

/-- The sum of two numbers, which must be below a limit. -/
def plusBelow (limit a b : Nat) : Checked Nat :=
  if a + b < limit then pure (a + b) else throw (.above a b)

/-- The sum of two rows or columns, or of two distances between them. -/
def plus (a b : Nat) : Checked Nat := plusBelow indexLimit a b

/-- A position in a list as a distance between rows; what does not fit is cut off. -/
def asIndex (position : Nat) : Nat := position % indexLimit

section Arithmetic

variable {limit a b : Nat}

theorem minus_eq (h : b ≤ a) : minus a b = pure (a - b) := if_pos h

@[simp] theorem minus_add_right (a b : Nat) : minus (a + b) b = pure a := by
  rw [minus_eq (Nat.le_add_left b a), Nat.add_sub_cancel]

theorem plusBelow_eq (h : a + b < limit) : plusBelow limit a b = pure (a + b) := if_pos h

theorem plus_eq (h : a + b < indexLimit) : plus a b = pure (a + b) := if_pos h

theorem asIndex_eq (h : a < indexLimit) : asIndex a = a := Nat.mod_eq_of_lt h

/-- Two lines of a sheet, or a line and a distance within the sheet, can be added. -/
theorem plus_eq_of_le_maxRows (ha : a ≤ maxRows + 1) (hb : b ≤ maxRows) : plus a b = pure (a + b) := by
  have hlimit : 2 * maxRows + 1 < indexLimit := by decide
  exact plus_eq (by omega)

end Arithmetic

/-- Every item of a list is computed without stopping. -/
theorem mapM_eq_pure {α β : Type} {f : α → Checked β} {g : α → β} {items : List α}
    (h : ∀ a ∈ items, f a = pure (g a)) : items.mapM f = pure (items.map g) := by
  induction items with
  | nil => rfl
  | cons a items ih =>
    rw [List.mapM_cons, h a (List.mem_cons_self ..), pure_bind,
      ih fun b hb => h b (List.mem_cons_of_mem _ hb)]
    rfl

/-- The item that there may be is computed without stopping. -/
theorem mapM_option_eq_pure {α β : Type} {f : α → Checked β} {g : α → β} {item : Option α}
    (h : ∀ a ∈ item, f a = pure (g a)) : item.mapM f = pure (item.map g) := by
  cases item with
  | none => rfl
  | some a =>
    rw [Option.mapM_some, h a rfl]
    rfl

/-! ## Letters of columns -/

/-- The letters of a column. -/
def checkedColumnLetters (index : Nat) : Checked (List Char) :=
  if index < 26 then pure [letterOf index]
  else do
    let _ ← minus (index / 26) 1
    let letters ← checkedColumnLetters (index / 26 - 1)
    return letters ++ [letterOf (index % 26)]
termination_by index

/-- The letters of a column as a string. -/
def checkedColumnName (index : Nat) : Checked String := do
  return String.ofList (← checkedColumnLetters index)

/-- The value of column letters behind those that were read already. -/
def checkedLettersValue (value : Nat) : List Char → Checked Nat
  | [] => pure value
  | c :: rest => do
    let offset ← minus c.toUpper.toNat 'A'.toNat
    let digit ← plus offset 1
    checkedLettersValue (← plus (value * 26) digit) rest

/-- The index of a column from its letters. -/
def checkedColumnIndex (letters : List Char) : Checked Nat := do
  return (← checkedLettersValue 0 letters) - 1

/-- The index of a column, if the text is one to three letters naming a column of a sheet. -/
def checkedColumn? (letters : List Char) : Checked (Option Nat) :=
  if letters ≠ [] ∧ letters.length ≤ 3 ∧ letters.all isAsciiLetter then do
    let index := (← checkedLettersValue 0 letters) - 1
    return if index < maxColumns then some index else none
  else pure none

theorem checkedColumnLetters_eq (index : Nat) :
    checkedColumnLetters index = pure (columnLetters index) := by
  fun_induction columnLetters index with
  | case1 index h => rw [checkedColumnLetters, if_pos h]
  | case2 index h ih =>
    rw [checkedColumnLetters, if_neg h, minus_eq (by omega), pure_bind, ih, pure_bind]

theorem checkedColumnName_eq (index : Nat) : checkedColumnName index = pure (columnName index) := by
  rw [checkedColumnName, checkedColumnLetters_eq, pure_bind]
  rfl

/-- Letters as digits are numbers from 1 to 26. -/
theorem toNat_toUpper_of_isAsciiLetter {c : Char} (h : isAsciiLetter c = true) :
    65 ≤ c.toUpper.toNat ∧ c.toUpper.toNat ≤ 90 :=
  isUpper_iff.1 (isUpper_toUpper h)

theorem le_foldl_digits (letters : List Char) (value : Nat) :
    value ≤ letters.foldl (fun value c => value * 26 + (c.toUpper.toNat - 64)) value := by
  induction letters generalizing value with
  | nil => exact le_rfl
  | cons c rest ih =>
    rw [List.foldl_cons]
    have := ih (value * 26 + (c.toUpper.toNat - 64))
    omega

/-- The value of letters is computed if it fits an index; what is computed on the way is not greater. -/
theorem checkedLettersValue_eq_pure_iff {letters : List Char}
    (h : ∀ c ∈ letters, isAsciiLetter c = true) {value n : Nat} (hvalue : value < indexLimit) :
    checkedLettersValue value letters = pure n ↔
      letters.foldl (fun value c => value * 26 + (c.toUpper.toNat - 64)) value = n ∧
        n < indexLimit := by
  induction letters generalizing value with
  | nil =>
    rw [checkedLettersValue, List.foldl_nil]
    constructor
    · rintro ⟨⟩
      exact ⟨rfl, hvalue⟩
    · rintro ⟨rfl, -⟩
      rfl
  | cons c rest ih =>
    obtain ⟨hlow, hhigh⟩ := toNat_toUpper_of_isAsciiLetter (h c (List.mem_cons_self ..))
    have hcode : 'A'.toNat = 65 := rfl
    have hdigit : c.toUpper.toNat - 65 + 1 < indexLimit := by
      have : 27 < indexLimit := by decide
      omega
    rw [checkedLettersValue, hcode, minus_eq hlow, pure_bind, plus_eq hdigit, pure_bind,
      List.foldl_cons, show c.toUpper.toNat - 65 + 1 = c.toUpper.toNat - 64 by omega]
    by_cases hsum : value * 26 + (c.toUpper.toNat - 64) < indexLimit
    · rw [plus_eq hsum, pure_bind, ih (fun d hd => h d (List.mem_cons_of_mem _ hd)) hsum]
    · -- what is too large already grows with the letters that follow
      have hrest := le_foldl_digits rest (value * 26 + (c.toUpper.toNat - 64))
      rw [plus, plusBelow, if_neg hsum]
      exact iff_of_false nofun fun hn => hsum (by omega)

/-- The index of a column is computed from letters whose value fits an index. -/
theorem checkedColumnIndex_eq_pure_iff {letters : List Char}
    (h : ∀ c ∈ letters, isAsciiLetter c = true) :
    checkedColumnIndex letters = pure (columnIndex letters) ↔ lettersValue letters < indexLimit := by
  have hvalue : ∀ n, checkedLettersValue 0 letters = pure n ↔
      lettersValue letters = n ∧ n < indexLimit :=
    fun n => checkedLettersValue_eq_pure_iff h (by decide)
  constructor
  · intro hindex
    cases hletters : checkedLettersValue 0 letters with
    | error stop =>
      rw [checkedColumnIndex, hletters] at hindex
      cases hindex
    | ok n =>
      obtain ⟨rfl, hlimit⟩ := (hvalue n).1 hletters
      exact hlimit
  · intro hlimit
    rw [checkedColumnIndex, (hvalue _).2 ⟨rfl, hlimit⟩]
    rfl

/-- The index of a column, if it is computed, is the one that its letters stand for. -/
theorem checkedColumnIndex_follows (letters : List Char) :
    Checked.Follows (fun stop => checkedColumnIndex letters = .error stop)
      (checkedColumnIndex letters) (pure (columnIndex letters)) := by
  have hvalue : ∀ letters value n, checkedLettersValue value letters = .ok n →
      letters.foldl (fun value c => value * 26 + (c.toUpper.toNat - 64)) value = n := by
    intro letters
    induction letters with
    | nil => exact fun value n h => Except.ok.inj h
    | cons c rest ih =>
      intro value n h
      -- each of the three steps gave its number, or nothing would have been computed
      rw [checkedLettersValue, minus] at h
      split at h
      · next hletter =>
        rw [pure_bind, plus, plusBelow] at h
        split at h
        · rw [pure_bind, plus, plusBelow] at h
          split at h
          · rw [pure_bind] at h
            have hcode : 'A'.toNat = 65 := rfl
            rw [List.foldl_cons, ← ih _ n h]
            congr 2
            omega
          · cases h
        · cases h
      · cases h
  cases hindex : checkedColumnIndex letters with
  | error stop => exact .inr ⟨stop, rfl, rfl⟩
  | ok n =>
    refine .inl ?_
    cases hletters : checkedLettersValue 0 letters with
    | error stop =>
      rw [checkedColumnIndex, hletters] at hindex
      cases hindex
    | ok m =>
      rw [checkedColumnIndex, hletters] at hindex
      rw [columnIndex, lettersValue, hvalue letters 0 m hletters]
      exact hindex.symm

theorem checkedLettersValue_eq_error {letters : List Char}
    (h : ∀ c ∈ letters, isAsciiLetter c = true) {value : Nat} {stop : Stop}
    (hstop : checkedLettersValue value letters = .error stop) : ∃ a b, stop = .above a b := by
  induction letters generalizing value with
  | nil => cases hstop
  | cons c rest ih =>
    obtain ⟨hlow, -⟩ := toNat_toUpper_of_isAsciiLetter (h c (List.mem_cons_self ..))
    have hcode : 'A'.toNat = 65 := rfl
    rw [checkedLettersValue, hcode, minus_eq hlow, pure_bind, plus, plusBelow] at hstop
    split at hstop
    · rw [pure_bind, plus, plusBelow] at hstop
      split at hstop
      · exact ih (fun d hd => h d (List.mem_cons_of_mem _ hd)) hstop
      · cases hstop
        exact ⟨_, _, rfl⟩
    · cases hstop
      exact ⟨_, _, rfl⟩

/-- The letters of a column stop only because they are too many. -/
theorem checkedColumnIndex_eq_error {letters : List Char}
    (h : ∀ c ∈ letters, isAsciiLetter c = true) {stop : Stop}
    (hstop : checkedColumnIndex letters = .error stop) :
    indexLimit ≤ lettersValue letters ∧ ∃ a b, stop = .above a b := by
  constructor
  · by_contra hlt
    rw [(checkedColumnIndex_eq_pure_iff h).2 (Nat.lt_of_not_le hlt)] at hstop
    cases hstop
  · cases hletters : checkedLettersValue 0 letters with
    | ok n =>
      rw [checkedColumnIndex, hletters] at hstop
      cases hstop
    | error stop' =>
      rw [checkedColumnIndex, hletters] at hstop
      cases hstop
      exact checkedLettersValue_eq_error h hletters

theorem lettersValue_lt {letters : List Char} (h : ∀ c ∈ letters, isAsciiLetter c = true) :
    lettersValue letters < 27 ^ letters.length := by
  induction letters using List.reverseRecOn with
  | nil => exact Nat.one_pos
  | append_singleton front c ih =>
    have hfront := ih fun d hd => h d (List.mem_append_left _ hd)
    obtain ⟨-, hhigh⟩ := toNat_toUpper_of_isAsciiLetter (h c (by simp))
    rw [lettersValue_append_singleton, List.length_append, List.length_singleton, pow_succ]
    omega

theorem checkedColumn?_eq (letters : List Char) :
    checkedColumn? letters = pure (parseColumn? letters) := by
  unfold checkedColumn? parseColumn?
  split
  · next h =>
    obtain ⟨-, hlength, hletters⟩ := h
    have hvalue := lettersValue_lt (List.all_eq_true.1 hletters)
    have hpow : 27 ^ letters.length ≤ 27 ^ 3 := Nat.pow_le_pow_right (by decide) hlength
    have hlimit : 27 ^ 3 ≤ indexLimit := by decide
    have hchecked := (checkedLettersValue_eq_pure_iff (List.all_eq_true.1 hletters)
      (by decide : 0 < indexLimit)).2 ⟨rfl, (hvalue.trans_le hpow).trans_le hlimit⟩
    rw [hchecked, pure_bind]
    rfl
  · rfl

end SheetPress
