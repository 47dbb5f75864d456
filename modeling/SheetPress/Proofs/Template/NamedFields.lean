import SheetPress.Proofs.Template.BoundFormulas
import SheetPress.Proofs.Template.Evaluators

/-!
# What expressions read of a record

A field that an expression does not name moves the cells of other fields when it is there, and their
addresses in the bound text with them.  The outcome does not depend on it.

* `boundAlike_boundText` — an expression that is bound in two ways gives texts that are alike.
* `get?_scratch_of_idxOf?` — the cell of a name holds the field of that name, or nothing.
* `ScratchEvaluator.evaluate_of_named_eq` — records that agree on the named fields give the same.
-/

namespace SheetPress

/-! ## Bound texts -/

/-- What is written for a piece of an expression. -/
def bindPiece (names : List String) : ExpressionPiece → List Char
  | .name word =>
    match names.idxOf? (String.ofList word) with
    | some n => (scratchPlace n).address.toList
    | none => word
  | .other text => text

/-- What is written for an expression that begins inside or outside of a text literal. -/
def boundText (names : List String) (quoted : Bool) (text : List Char) : List Char :=
  (expressionPieces quoted false text).flatMap (bindPiece names)

theorem bindNames_eq (names : List String) (expression : String) :
    bindNames names expression = String.ofList (boundText names false expression.toList) := by
  rw [bindNames, boundText]
  congr 2

/-- Under two lists of names a word is bound to related numbers, or it is a truth value and not
bound. -/
inductive BindsAlike (R : Nat → Nat → Prop) (names names' : List String) (word : String) : Prop
  | bound {i j : Nat} (hi : names.idxOf? word = some i) (hj : names'.idxOf? word = some j)
      (hij : R i j)
  | kept (hi : names.idxOf? word = none) (hj : names'.idxOf? word = none)
      (h : IsTruthWord word.toList)

section BoundText

variable {R : Nat → Nat → Prop} {names names' : List String} {quoted : Bool} {c : Char}
  {text : List Char}

theorem expressionPieces_of_not_name (hname : isNameChar c = false) (hdollar : c ≠ '$')
    (quoted : Bool) (text : List Char) :
    expressionPieces quoted false (c :: text) =
      .other [c] :: expressionPieces (if c = '"' then !quoted else quoted) false text := by
  rw [expressionPieces, if_neg (by simp [hname]), decide_eq_false hdollar]

theorem boundText_of_not_name (hname : isNameChar c = false) (hdollar : c ≠ '$')
    (names : List String) (quoted : Bool) (text : List Char) :
    boundText names quoted (c :: text) =
      c :: boundText names (if c = '"' then !quoted else quoted) text := by
  rw [boundText, expressionPieces_of_not_name hname hdollar, List.flatMap_cons]
  rfl

theorem expressionPieces_of_name (hname : isNameChar c = true) (quoted : Bool) (text : List Char) :
    expressionPieces quoted false (c :: text) =
      wordPiece quoted false (c :: text.takeWhile isNameChar) (text.dropWhile isNameChar) ::
        expressionPieces quoted false (text.dropWhile isNameChar) := by
  rw [expressionPieces, if_pos hname]

theorem boundText_of_name (hname : isNameChar c = true) (names : List String) (quoted : Bool)
    (text : List Char) :
    boundText names quoted (c :: text) =
      bindPiece names (wordPiece quoted false (c :: text.takeWhile isNameChar)
        (text.dropWhile isNameChar)) ++ boundText names quoted (text.dropWhile isNameChar) := by
  rw [boundText, expressionPieces_of_name hname, List.flatMap_cons]
  rfl

/-- Text that begins with no character of a name does so when it is bound. -/
theorem ends_boundText (hchars : ∀ c ∈ text, c ≠ '$') (h : ∀ c ∈ text.head?, isNameChar c = false) :
    ∀ c ∈ (boundText names quoted text).head?, isNameChar c = false := by
  cases text with
  | nil => simp [boundText, expressionPieces]
  | cons c text =>
    rw [boundText_of_not_name (h c rfl) (hchars c (List.mem_cons_self ..))]
    exact h

/-- An opening parenthesis behind blanks is there when the text is bound. -/
theorem openParen_boundText (h : (text.dropWhile isBlank).head? = some '(') :
    ((boundText names false text).dropWhile isBlank).head? = some '(' := by
  induction text with
  | nil => cases h
  | cons c text ih =>
    by_cases hblank : isBlank c = true
    · have hname : isNameChar c = false := by
        by_contra hname
        rw [Bool.not_eq_false] at hname
        rw [(of_isNameChar hname).1] at hblank
        cases hblank
      have hquote : c ≠ '"' := by
        rintro rfl
        exact absurd hblank (by decide +kernel)
      rw [boundText_of_not_name hname (of_isBlank hblank).2.2.2.2.2.2.1, if_neg hquote,
        List.dropWhile_cons_of_pos hblank]
      rw [List.dropWhile_cons_of_pos hblank] at h
      exact ih h
    · rw [List.dropWhile_cons_of_neg hblank] at h
      cases h
      rw [boundText_of_not_name (by decide +kernel) (by decide), List.dropWhile_cons_of_neg hblank]
      rfl

/-- A word that names no field stands for itself: a number or a function. -/
theorem keptWord_of_not_namesField {word behind : List Char} (names : List String)
    (hword : ∀ c ∈ word, isNameChar c = true) (hends : ∀ c ∈ behind.head?, isNameChar c = false)
    (hchars : ∀ c ∈ behind, c ∉ ['$', ':', '!']) (h : namesField false word behind = false) :
    KeptWord word (boundText names false behind) where
  names := hword
  ends := ends_boundText (fun c hc heq => hchars c hc (by simp [heq])) hends
  kind := by
    by_cases hdigit : word.head?.any isAsciiDigit = true
    · exact .inl hdigit
    · refine .inr (.inl (openParen_boundText ?_))
      have hmem : ∀ c ∈ (behind.dropWhile isBlank).head?, c ∉ ['$', ':', '!'] := fun c hc =>
        hchars c ((List.dropWhile_sublist _).subset (List.mem_of_mem_head? hc))
      rw [Bool.not_eq_true] at hdigit
      simp only [namesField, hdigit, trimStartChars, Bool.not_false, Bool.true_and] at h
      split at h
      · next heq => exact heq
      · next heq => exact absurd (by simp) (hmem _ heq)
      · next heq => exact absurd (by simp) (hmem _ heq)
      · cases h

/-- Words within a text literal are not bound. -/
theorem BoundAlike.append_names {word behind s t : List Char} (h : BoundAlike R true s t)
    (hword : ∀ c ∈ word, isNameChar c = true) :
    BoundAlike R true (bindPiece names (wordPiece true false word behind) ++ s)
      (bindPiece names' (wordPiece true false word behind) ++ t) := by
  change BoundAlike R true (word ++ s) (word ++ t)
  induction word with
  | nil => exact h
  | cons c word ih =>
    obtain ⟨hc, hword⟩ := List.forall_mem_cons.1 hword
    refine .literal ⟨?_, ?_⟩ (ih hword) <;>
    · rintro rfl
      exact absurd hc (by decide +kernel)

/-- A word outside of text literals, in front of bound text. -/
theorem BoundAlike.append_word {word behind : List Char}
    (h : BoundAlike R false (boundText names false behind) (boundText names' false behind))
    (hword : ∀ c ∈ word, isNameChar c = true) (hends : ∀ c ∈ behind.head?, isNameChar c = false)
    (hchars : ∀ c ∈ behind, c ∉ ['$', ':', '!'])
    (hbinds : namesField false word behind = true →
      BindsAlike R names names' (String.ofList word)) :
    BoundAlike R false
      (bindPiece names (wordPiece false false word behind) ++ boundText names false behind)
      (bindPiece names' (wordPiece false false word behind) ++ boundText names' false behind) := by
  have hdollar : ∀ c ∈ behind, c ≠ '$' := fun c hc heq => hchars c hc (by simp [heq])
  have hkept (hkept : KeptWord word (boundText names false behind)) :
      BoundAlike R false (word ++ boundText names false behind)
        (word ++ boundText names' false behind) := by
    cases word with
    | nil => exact h
    | cons => exact .kept hkept h
  cases hfield : namesField false word behind with
  | false =>
    have hpiece : wordPiece false false word behind = .other word := by simp [wordPiece, hfield]
    rw [hpiece]
    exact hkept (keptWord_of_not_namesField names hword hends hchars hfield)
  | true =>
    have hpiece : wordPiece false false word behind = .name word := by simp [wordPiece, hfield]
    rw [hpiece, bindPiece, bindPiece]
    cases hbinds hfield with
    | bound hi hj hij =>
      rw [hi, hj]
      exact .address hij (ends_boundText hdollar hends) h
    | kept hi hj htruth =>
      rw [hi, hj]
      rw [String.toList_ofList] at htruth
      exact hkept ⟨hword, ends_boundText hdollar hends, .inr (.inr htruth)⟩

/-- An expression without sheets and ranges that is bound in two ways gives texts that are alike. -/
theorem boundAlike_boundText (hchars : ∀ c ∈ text, c ∉ ['$', ':', '!'])
    (hwords : ∀ word, .name word ∈ expressionPieces quoted false text →
      BindsAlike R names names' (String.ofList word)) :
    BoundAlike R quoted (boundText names quoted text) (boundText names' quoted text) := by
  induction hn : text.length using Nat.strong_induction_on generalizing text quoted with
  | _ n ih =>
    cases text with
    | nil =>
      simp only [boundText, expressionPieces, List.flatMap_nil]
      exact .nil quoted
    | cons c text =>
      obtain ⟨hc, hrest⟩ := List.forall_mem_cons.1 hchars
      by_cases hname : isNameChar c = true
      · have hsub : ∀ c ∈ text.dropWhile isNameChar, c ∉ ['$', ':', '!'] := fun c hc =>
          hrest c ((List.dropWhile_sublist _).subset hc)
        have hlt : (text.dropWhile isNameChar).length < n :=
          hn ▸ Nat.lt_succ_of_le (length_dropWhile_le _ text)
        rw [expressionPieces_of_name hname] at hwords
        have halike := ih _ hlt hsub (fun word hmem => hwords word (List.mem_cons_of_mem _ hmem)) rfl
        have hword : ∀ d ∈ c :: text.takeWhile isNameChar, isNameChar d = true :=
          List.forall_mem_cons.2 ⟨hname, fun _ => List.mem_takeWhile_imp⟩
        rw [boundText_of_name hname, boundText_of_name hname]
        cases quoted with
        | true => exact halike.append_names hword
        | false =>
          refine halike.append_word hword (head?_dropWhile text) hsub fun h => hwords _ ?_
          rw [wordPiece, h]
          exact List.mem_cons_self ..
      · rw [Bool.not_eq_true] at hname
        have hdollar : c ≠ '$' := fun heq => hc (by simp [heq])
        rw [expressionPieces_of_not_name hname hdollar] at hwords
        have halike := ih text.length (hn ▸ Nat.lt_succ_self _) hrest
          (fun word hmem => hwords word (List.mem_cons_of_mem _ hmem)) rfl
        rw [boundText_of_not_name hname hdollar, boundText_of_not_name hname hdollar]
        by_cases hquote : c = '"'
        · subst hquote
          exact .quote (by simpa using halike)
        · rw [if_neg hquote] at halike ⊢
          cases quoted with
          | false => exact .other hname (by simpa [hquote] using hc) halike
          | true => exact .literal ⟨hquote, fun heq => hc (by simp [heq])⟩ halike

end BoundText

/-! ## Names and their cells -/

theorem mem_addNames {names words : List String} {word : String} :
    word ∈ addNames names words ↔ word ∈ names ∨ word ∈ words ∧ isReservedName word = false := by
  fun_induction addNames names words with
  | case1 names => simp
  | case2 names first words hfirst ih =>
    rw [ih, List.mem_cons]
    by_cases heq : word = first
    · subst heq
      rcases hfirst with hmem | hreserved
      · simp [hmem]
      · simp [hreserved]
    · simp [heq]
  | case3 names first words hfirst ih =>
    rw [ih, List.mem_append, List.mem_singleton, List.mem_cons]
    by_cases heq : word = first
    · subst heq
      simp only [not_or, Bool.not_eq_true] at hfirst
      simp [hfirst.2]
    · simp [heq]

/-- The scratch grid for a record. -/
def Record.scratch (r : Record) : Grid := fillScratch {} (r.fields.toList.map (·.2))

section Names

variable {expression : String} {r r' : Record} {word : String} {n : Nat}

theorem Record.field?_eq_some_iff {value : FieldValue} :
    r.field? word = some value ↔ (word, value) ∈ r.fields.toList :=
  Std.ExtTreeMap.mem_toList_iff_getElem?_eq_some.symm

theorem Record.mem_map_fst_iff : word ∈ r.fields.toList.map (·.1) ↔ (r.field? word).isSome := by
  rw [Std.ExtTreeMap.map_fst_toList_eq_keys, Std.ExtTreeMap.mem_keys,
    Std.ExtTreeMap.mem_iff_isSome_getElem?]
  rfl

/-- The first names are those of the fields. -/
theorem getElem?_boundNames (expression : String) {field : String × FieldValue}
    (h : r.fields.toList[n]? = some field) : (boundNames expression r)[n]? = some field.1 := by
  have hlt : n < (r.fields.toList.map (·.1)).length := by
    rw [List.length_map]
    exact (List.getElem?_eq_some_iff.1 h).1
  obtain ⟨others, heq⟩ := isPrefix_addNames (r.fields.toList.map (·.1)) (namesOf expression)
  rw [boundNames, ← heq, List.getElem?_append_left hlt, List.getElem?_map, h]
  rfl

/-- The cell of a name holds the field of that name, or nothing if there is none. -/
theorem get?_scratch_of_idxOf? (h : (boundNames expression r).idxOf? word = some n) :
    r.scratch.get? (scratchPlace n) = (r.field? word).map fun v => .ofValue v.toCell := by
  obtain ⟨hlt, hword, hfirst⟩ := List.idxOf?_eq_some_iff.1 h
  rw [Record.scratch, get?_fillScratch, List.getElem?_map, Option.map_map]
  cases hget : r.fields.toList[n]? with
  | some field =>
    obtain ⟨name, value⟩ := field
    have hname := getElem?_boundNames expression hget
    rw [List.getElem?_eq_getElem hlt, hword] at hname
    cases hname
    rw [Record.field?_eq_some_iff.2 (List.mem_of_getElem? hget)]
    rfl
  | none =>
    -- a field of that name would be bound to an earlier cell
    cases hfield : r.field? word with
    | none => rfl
    | some value =>
      obtain ⟨k, hk⟩ := List.mem_iff_getElem?.1 (Record.field?_eq_some_iff.1 hfield)
      have hkn : k < n :=
        (List.getElem?_eq_some_iff.1 hk).1.trans_le (List.getElem?_eq_none_iff.1 hget)
      have hname := getElem?_boundNames expression hk
      exact absurd (List.getElem?_eq_some_iff.1 hname).2 (hfirst k hkn)

theorem isTruthWord_of_isReservedName (h : isReservedName word = true)
    (hcell : Coord.parse? word.toList = none) : IsTruthWord word.toList := by
  simpa [isReservedName, hcell, IsTruthWord] using h

/-- Records that agree on a word bind it to equal cells. -/
theorem bindsAlike_boundNames (hword : word ∈ namesOf expression)
    (hcell : Coord.parse? word.toList = none) (hfield : r.field? word = r'.field? word)
    (hrows : (boundNames expression r).length < indexLimit)
    (hrows' : (boundNames expression r').length < indexLimit) :
    BindsAlike (SameCell r.scratch r'.scratch) (boundNames expression r)
      (boundNames expression r') word := by
  have hmem (r : Record) : word ∈ boundNames expression r ↔
      (r.field? word).isSome ∨ isReservedName word = false := by
    rw [boundNames, mem_addNames, Record.mem_map_fst_iff, and_iff_right hword]
  cases hi : (boundNames expression r).idxOf? word with
  | none =>
    have hnone := List.idxOf?_eq_none_iff.1 hi
    have hnone' : word ∉ boundNames expression r' := by rwa [hmem, ← hfield, ← hmem]
    refine .kept hi (List.idxOf?_eq_none_iff.2 hnone') (isTruthWord_of_isReservedName ?_ hcell)
    rw [hmem, not_or, Bool.not_eq_false] at hnone
    exact hnone.2
  | some i =>
    have hsome : word ∈ boundNames expression r := List.isSome_idxOf?.1 (by rw [hi]; rfl)
    have hsome' : word ∈ boundNames expression r' := by rwa [hmem, ← hfield, ← hmem]
    obtain ⟨j, hj⟩ := Option.isSome_iff_exists.1 (List.isSome_idxOf?.2 hsome')
    refine .bound hi hj ⟨?_, ?_, ?_⟩
    · exact (Nat.succ_le_of_lt (List.idxOf?_eq_some_iff.1 hi).1).trans_lt hrows
    · exact (Nat.succ_le_of_lt (List.idxOf?_eq_some_iff.1 hj).1).trans_lt hrows'
    · rw [get?_scratch_of_idxOf? hi, get?_scratch_of_idxOf? hj, hfield]

end Names

/-! ## Evaluation -/

namespace ScratchEvaluator

variable {e e' : ScratchEvaluator} {expression : String} {r r' : Record} {x : Evaluation}

theorem IsBuilt.evaluate_eq_ok_iff (he : e.IsBuilt) :
    (e.evaluate expression r).1 = .ok x ↔
      ∃ formula, parseFormula (bindNames (boundNames expression r) expression) = .ok formula ∧
        (∀ code, formula.eval (.single r.scratch) ≠ .error code) ∧
          x = ⟨(formula.eval (.single r.scratch)).asText, formula.eval (.single r.scratch)⟩ := by
  have hevaluate : (e.evaluate expression r).1 =
      (evaluateBound r.scratch (bindNames (boundNames expression r) expression)).mapError
        (.expression expression) := by
    rw [he.eq_empty]
    rfl
  rw [hevaluate, evaluateBound]
  cases parseFormula (bindNames (boundNames expression r) expression) with
  | error => simp [Except.mapError]
  | ok formula =>
    cases hvalue : formula.eval (.single r.scratch) <;> simp [Except.mapError, hvalue, eq_comm]

/-- What is evaluated over one record is evaluated over another one with the same named fields. -/
theorem IsBuilt.evaluate_eq_ok_of_named_eq (he : e.IsBuilt) (he' : e'.IsBuilt)
    (hchars : ∀ c ∈ expression.toList, c ∉ ['$', ':', '!'])
    (hcells : ∀ name ∈ namesOf expression, Coord.parse? name.toList = none)
    (hfields : ∀ name ∈ namesOf expression, r.field? name = r'.field? name)
    (hrows : (boundNames expression r).length < indexLimit)
    (hrows' : (boundNames expression r').length < indexLimit)
    (h : (e.evaluate expression r).1 = .ok x) : (e'.evaluate expression r').1 = .ok x := by
  obtain ⟨formula, hparse, hcode, rfl⟩ := he.evaluate_eq_ok_iff.1 h
  have halike : BoundAlike (SameCell r.scratch r'.scratch) false
      (boundText (boundNames expression r) false expression.toList)
      (boundText (boundNames expression r') false expression.toList) := by
    refine boundAlike_boundText hchars fun word hword => ?_
    have hname : String.ofList word ∈ namesOf expression :=
      List.mem_filterMap.2 ⟨.name word, hword, rfl⟩
    exact bindsAlike_boundNames hname (hcells _ hname) (hfields _ hname) hrows hrows'
  rw [bindNames_eq] at hparse
  obtain ⟨formula', hparse', hvalue⟩ := halike.parseFormula hparse
  rw [← bindNames_eq] at hparse'
  rw [hvalue] at hcode ⊢
  exact he'.evaluate_eq_ok_iff.2 ⟨formula', hparse', hcode, rfl⟩

/-- Two evaluators that were used before, over two records that agree on the fields that an expression
names, fail both or give the same text and value, whatever other fields there are.  The expression has
no sheets, ranges and references of its own; rows of the scratch grid are counted in 32 bits. -/
theorem evaluate_of_named_eq (he : e.IsBuilt) (he' : e'.IsBuilt)
    (hchars : ∀ c ∈ expression.toList, c ∉ ['$', ':', '!'])
    (hcells : ∀ name ∈ namesOf expression, Coord.parse? name.toList = none)
    (hfields : ∀ name ∈ namesOf expression, r.field? name = r'.field? name)
    (hrows : (boundNames expression r).length < indexLimit)
    (hrows' : (boundNames expression r').length < indexLimit) :
    (e.evaluate expression r).1.toOption = (e'.evaluate expression r').1.toOption := by
  have hiff (x : Evaluation) :
      (e.evaluate expression r).1 = .ok x ↔ (e'.evaluate expression r').1 = .ok x :=
    ⟨he.evaluate_eq_ok_of_named_eq he' hchars hcells hfields hrows hrows',
      he'.evaluate_eq_ok_of_named_eq he hchars hcells (fun name h => (hfields name h).symm) hrows'
        hrows⟩
  cases hleft : (e.evaluate expression r).1 with
  | ok x => rw [(hiff x).1 hleft]
  | error fault =>
    cases hright : (e'.evaluate expression r').1 with
    | ok x => rw [(hiff x).2 hright] at hleft; cases hleft
    | error => rfl

/-- A rule for the color of what is late. -/
def lateRule : String := "=IF(status=\"late\",\"FF0000\",\"\")"

def lateRecord : Record := ({} : Record).withField "status" (.text "late")

/-- The same with one more field, which comes first. -/
def lateOrder : Record := lateRecord.withField "order" (.text "27")

/-- An evaluator that failed on a formula without its end. -/
def failedEvaluator : ScratchEvaluator := (({} : ScratchEvaluator).evaluate "=order&" lateOrder).2

/-- The additional field moves the cell of the status, and the color is the same. -/
theorem evaluate_of_named_eq_lateOrder :
    failedEvaluator.IsBuilt ∧ (∀ c ∈ lateRule.toList, c ∉ ['$', ':', '!']) ∧
      namesOf lateRule = ["status"] ∧
      bindNames (boundNames lateRule lateRecord) lateRule =
        "=IF(A1=\"late\",\"FF0000\",\"\")" ∧
      bindNames (boundNames lateRule lateOrder) lateRule =
        "=IF(A2=\"late\",\"FF0000\",\"\")" ∧
      (({} : ScratchEvaluator).evaluate lateRule lateRecord).1.toOption =
        (failedEvaluator.evaluate lateRule lateOrder).1.toOption := by
  have hbuilt : failedEvaluator.IsBuilt := .used .new "=order&" lateOrder
  have hchars : ∀ c ∈ lateRule.toList, c ∉ ['$', ':', '!'] := forall_mem_of_all (by decide +kernel)
  have hnames : namesOf lateRule = ["status"] := by decide +kernel
  have hcells : ∀ name ∈ namesOf lateRule, Coord.parse? name.toList = none := by
    rw [hnames, List.forall_mem_singleton]
    decide +kernel
  have hfields : ∀ name ∈ namesOf lateRule, lateRecord.field? name = lateOrder.field? name := by
    rw [hnames, List.forall_mem_singleton]
    exact (Std.ExtTreeMap.getElem?_insert.trans (if_neg (by decide +kernel))).symm
  have hrows : (boundNames lateRule lateRecord).length < indexLimit := by
    have hlength : (boundNames lateRule lateRecord).length = 1 := by decide +kernel
    rw [hlength]
    decide
  have hrows' : (boundNames lateRule lateOrder).length < indexLimit := by
    have hlength : (boundNames lateRule lateOrder).length = 2 := by decide +kernel
    rw [hlength]
    decide
  exact ⟨hbuilt, hchars, hnames, by decide +kernel, by decide +kernel,
    evaluate_of_named_eq .new hbuilt hchars hcells hfields hrows hrows'⟩

end ScratchEvaluator

end SheetPress
