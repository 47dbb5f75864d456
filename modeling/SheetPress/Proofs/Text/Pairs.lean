import Mathlib
import SheetPress.Template.TextTemplate

/-!
# Pairs of a character

Braces that open or close an action come in pairs, and a text is cut at the first pair.  What stands in
front of it has no pair, not even with the first character of the pair itself.

* `noPair_append` — where two texts without pairs meet.
* `splitAtFirst?_pair_eq_some_iff`, `splitAtFirst?_pair_eq_none_iff` — the first pair of a text.
-/

namespace SheetPress

/-- No two characters `c` stand side by side. -/
def NoPair (c : Char) (text : List Char) : Prop := text.IsChain fun a b => ¬(a = c ∧ b = c)

section NoPair

variable {a c : Char} {text front behind : List Char}

theorem noPair_nil (c : Char) : NoPair c [] := List.isChain_nil

theorem noPair_singleton (c a : Char) : NoPair c [a] := List.isChain_singleton a

/-- Two texts may meet unless the character stands on both sides of the seam. -/
theorem noPair_append :
    NoPair c (front ++ behind) ↔
      NoPair c front ∧ NoPair c behind ∧ ¬(front.getLast? = some c ∧ behind.head? = some c) := by
  rw [NoPair, List.isChain_append]
  refine and_congr_right fun _ => and_congr_right fun _ => ?_
  constructor
  · rintro h ⟨hlast, hhead⟩
    exact h c hlast c hhead ⟨rfl, rfl⟩
  · rintro h x hx y hy ⟨rfl, rfl⟩
    exact h ⟨hx, hy⟩

theorem noPair_cons : NoPair c (a :: text) ↔ ¬(a = c ∧ text.head? = some c) ∧ NoPair c text := by
  have hseam : NoPair c ([a] ++ text) ↔ _ := noPair_append
  rw [List.singleton_append, List.getLast?_singleton, Option.some_inj] at hseam
  rw [hseam, and_comm (a := NoPair c text)]
  exact and_iff_right (noPair_singleton c a)

/-- A text without a character has no pair of it. -/
theorem noPair_of_notMem (h : c ∉ text) : NoPair c text := by
  induction text with
  | nil => exact noPair_nil c
  | cons a text ih =>
    rw [List.mem_cons, not_or] at h
    exact noPair_cons.2 ⟨fun hpair => h.1 hpair.1.symm, ih h.2⟩

theorem head?_append_cons (front : List Char) (c : Char) (behind : List Char) :
    (front ++ c :: behind).head? = (front ++ [c]).head? := by
  cases front <;> rfl

end NoPair

/-! ## The first pair of a text -/

section FirstPair

variable {c : Char} {text front behind : List Char}

theorem dropLead?_pair_eq_some_iff :
    dropLead? [c, c] text = some behind ↔ text = c :: c :: behind := by
  constructor
  · exact dropLead?_eq_append
  · rintro rfl
    rw [dropLead?, if_pos rfl, dropLead?, if_pos rfl, dropLead?]

/-- A text is split at a pair exactly if there is none in front of it. -/
theorem splitAtFirst?_pair_eq_some_iff :
    splitAtFirst? [c, c] text = some (front, behind) ↔
      text = front ++ [c, c] ++ behind ∧ NoPair c (front ++ [c]) := by
  rw [List.append_assoc, List.cons_append, List.singleton_append]
  induction text generalizing front with
  | nil =>
    refine iff_of_false (fun h => nomatch h) fun h => ?_
    exact List.append_ne_nil_of_right_ne_nil front (List.cons_ne_nil _ _) h.1.symm
  | cons a text ih =>
    rw [splitAtFirst?]
    cases hlead : dropLead? [c, c] (a :: text) with
    | some behind' =>
      rw [dropLead?_pair_eq_some_iff] at hlead
      cases front with
      | nil => simp [hlead, noPair_singleton]
      | cons b front =>
        refine iff_of_false (fun h => nomatch h) ?_
        rintro ⟨htext, hnone⟩
        rw [htext, List.cons_append, List.cons.injEq] at hlead
        rw [List.cons_append, noPair_cons] at hnone
        refine hnone.1 ⟨hlead.1, ?_⟩
        rw [← head?_append_cons front c (c :: behind), hlead.2, List.head?_cons]
    | none =>
      have hnew (rest : List Char) : a :: text ≠ c :: c :: rest := by
        intro heq
        rw [dropLead?_pair_eq_some_iff.2 heq] at hlead
        cases hlead
      cases front with
      | nil => simpa using fun ha ht _ => hnew behind (by rw [ha, ht])
      | cons b front =>
        simp only [Option.map_eq_some_iff, Prod.mk.injEq, Prod.exists, List.cons.injEq,
          List.cons_append, noPair_cons]
        constructor
        · rintro ⟨front', behind', hsplit, ⟨rfl, rfl⟩, rfl⟩
          obtain ⟨rfl, hnone⟩ := ih.1 hsplit
          refine ⟨⟨rfl, rfl⟩, ?_, hnone⟩
          rintro ⟨rfl, hhead⟩
          rw [← head?_append_cons front' a (a :: behind')] at hhead
          obtain ⟨rest, hrest⟩ := List.head?_eq_some_iff.1 hhead
          exact hnew rest (by rw [hrest])
        · rintro ⟨⟨rfl, rfl⟩, -, hnone⟩
          exact ⟨front, behind, ih.2 ⟨rfl, hnone⟩, ⟨rfl, rfl⟩, rfl⟩

theorem splitAtFirst?_pair_eq_none_iff : splitAtFirst? [c, c] text = none ↔ NoPair c text := by
  induction text with
  | nil => exact iff_of_true rfl (noPair_nil c)
  | cons a text ih =>
    rw [splitAtFirst?, noPair_cons, ← ih]
    cases hlead : dropLead? [c, c] (a :: text) with
    | some behind =>
      rw [dropLead?_pair_eq_some_iff, List.cons.injEq] at hlead
      simp [hlead]
    | none =>
      have hnew : ¬(a = c ∧ text.head? = some c) := by
        rintro ⟨rfl, hhead⟩
        obtain ⟨rest, hrest⟩ := List.head?_eq_some_iff.1 hhead
        rw [dropLead?_pair_eq_some_iff.2 (by rw [hrest])] at hlead
        cases hlead
      simp [hnew]

/-- Where the first pair is, is settled by the text. -/
theorem NoPair.eq_of_append_eq {front' behind' : List Char} (h : NoPair c (front ++ [c]))
    (h' : NoPair c (front' ++ [c]))
    (heq : front ++ [c, c] ++ behind = front' ++ [c, c] ++ behind') :
    front = front' ∧ behind = behind' := by
  have hfirst : splitAtFirst? [c, c] (front ++ [c, c] ++ behind) = some (front, behind) :=
    splitAtFirst?_pair_eq_some_iff.2 ⟨rfl, h⟩
  have hsecond := splitAtFirst?_pair_eq_some_iff.2 ⟨heq, h'⟩
  exact Prod.mk.inj (Option.some.inj (hfirst.symm.trans hsecond))

end FirstPair

end SheetPress
