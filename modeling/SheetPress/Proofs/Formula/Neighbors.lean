import SheetPress.Proofs.Formula.Retokening

/-!
# Tokens that stand in no formula

Some lists of tokens are no formulas, whatever else is in them: those with an illegal token, those with
a quoted sheet name but no exclamation mark, and those in which a number is followed by anything but a
symbol.

* `holdsInPhrases_isChain` — in a phrase a number is followed by a symbol.
* `holdsInPhrases_exclamation_mem` — a phrase with a quoted name has an exclamation mark.
* `Derives.not_stuck` — so that no phrase is stuck.
* `mem_of_symbol_mem` — a symbol comes from its own characters.
-/

namespace SheetPress

/-- What may stand behind a token: a number ends an operand, so that a symbol is next. -/
def Token.Follows (t next : Token) : Prop := (∃ x, t = .number x) → ∃ symbol, next = .symbol symbol

/-- Tokens that are no formula as long as they have no exclamation mark. -/
inductive Stuck (ts : List Token) : Prop
  | illegal {c : Char} (h : .illegal c ∈ ts)
  | quotedName {sheet : String} (h : .quotedName sheet ∈ ts)
  | number (h : ¬ ts.IsChain Token.Follows)

section Chains

variable {ts : List Token}

theorem follows_symbol (t : Token) (symbol : Symbol) : t.Follows (.symbol symbol) :=
  fun _ => ⟨symbol, rfl⟩

theorem symbol_follows (symbol : Symbol) (t : Token) : (Token.symbol symbol).Follows t := by
  rintro ⟨x, hx⟩
  cases hx

theorem Stuck.cons (h : Stuck ts) (t : Token) : Stuck (t :: ts) := by
  cases h with
  | illegal h => exact .illegal (List.mem_cons_of_mem t h)
  | quotedName h => exact .quotedName (List.mem_cons_of_mem t h)
  | number h => exact .number fun hchain => h hchain.tail

/-- A symbol at the front is not what they are stuck at. -/
theorem Stuck.of_symbol_cons {symbol : Symbol} (h : Stuck (.symbol symbol :: ts)) : Stuck ts := by
  cases h with
  | illegal h => exact .illegal ((List.mem_cons.1 h).resolve_left (by simp))
  | quotedName h => exact .quotedName ((List.mem_cons.1 h).resolve_left (by simp))
  | number h =>
    refine .number fun hchain => h ?_
    cases ts with
    | nil => exact .singleton _
    | cons t ts => exact .cons_cons (symbol_follows symbol t) hchain

end Chains

/-! ## Phrases -/

/-- In a phrase a number is followed by a symbol. -/
theorem holdsInPhrases_isChain : HoldsInPhrases (List.IsChain Token.Follows) where
  nil := .nil
  operand _ := .singleton _
  quoted sheet ts h := by
    refine .cons_cons (fun ⟨x, hx⟩ => by cases hx) ?_
    exact List.isChain_cons.2 ⟨fun t _ => symbol_follows .exclamation t, h⟩
  join {ts us} symbol h h' := by
    refine h.append (List.isChain_cons.2 ⟨fun t _ => symbol_follows symbol t, h'⟩) ?_
    intro t _ next hnext
    obtain rfl : Token.symbol symbol = next := by simpa using hnext
    exact follows_symbol t symbol

/-- In a phrase there is an exclamation mark if there is a quoted name. -/
theorem holdsInPhrases_exclamation_mem (sheet : String) :
    HoldsInPhrases fun ts => .quotedName sheet ∈ ts → .symbol .exclamation ∈ ts where
  nil hmem := absurd hmem List.not_mem_nil
  operand ht hmem := by
    rw [← List.mem_singleton.1 hmem] at ht
    cases ht
  quoted other ts _ _ := by simp
  join symbol h h' hmem := by
    rcases List.mem_append.1 hmem with hmem | hmem
    · exact List.mem_append_left _ (h hmem)
    · have hmem' := (List.mem_cons.1 hmem).resolve_left (by simp)
      exact List.mem_append_right _ (List.mem_cons_of_mem _ (h' hmem'))

/-- Without an exclamation mark no phrase is stuck. -/
theorem Derives.not_stuck {phrase : Phrase} {ts : List Token} {e : Expr} (h : Derives phrase ts e)
    (hmark : .symbol .exclamation ∉ ts) : ¬ Stuck ts := by
  rintro (hmem | hmem | hchain)
  · exact h.illegal_notMem _ hmem
  · exact hmark ((holdsInPhrases_exclamation_mem _).derives h hmem)
  · exact hchain (holdsInPhrases_isChain.derives h)

/-! ## Symbols -/

/-- The characters of a symbol stand in the text that it was cut from. -/
theorem mem_of_symbol_mem {symbol : Symbol} {text : List Char}
    (h : .symbol symbol ∈ tokensOf text) : ∀ c ∈ symbol.text.toList, c ∈ text := by
  induction hn : text.length using Nat.strong_induction_on generalizing text with
  | _ n ih =>
    intro c hc
    refine (List.dropWhile_sublist isBlank).subset ?_
    cases hdrop : text.dropWhile isBlank with
    | nil =>
      rw [tokensOf_of_blank hdrop] at h
      cases h
    | cons d rest =>
      rw [tokensOf_of_dropWhile hdrop] at h
      have hlen : (nextToken d rest).2.length < n := hn ▸ length_nextToken_lt_of_dropWhile hdrop
      generalize hnext : nextToken d rest = next at h hlen
      obtain ⟨t, behind⟩ := next
      rcases List.mem_cons.1 h with rfl | h
      · have hblank := isBlank_of_dropWhile hdrop
        obtain ⟨mid, htext, -⟩ := (Lexes.cons hblank hnext (.nil behind)).exists_symbol
        exact htext ▸ List.mem_append_left _ hc
      · obtain ⟨run, htext⟩ := exists_append_nextToken hnext
        exact htext ▸ List.mem_append_right _ (ih _ hlen h rfl c hc)

end SheetPress
