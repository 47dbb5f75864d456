import Mathlib
import SheetPress.Formula.Shift
import SheetPress.Proofs.Formula.Lexing

/-!
# Where the text of a formula holds references

References are looked for in the text of a formula, without reading it as an expression.  These
lemmas say where none is found: in quotes, inside of names and numerals, and in the names of
functions and sheets.  There the text is cut into single characters.

* `piecesFrom_run` — a run of text in which no reference stands for itself.
* `piecesFrom_quotedBody`, `piecesFrom_name`, `piecesFrom_column`, `piecesFrom_numeral` — the words
  of a formula.
* `piecesFrom_corner`, `piecesFrom_corners` — the places where a reference is found.
-/

namespace SheetPress

variable {opened before : Option Char}

/-! ## Steps -/

@[simp] theorem piecesFrom_nil : piecesFrom opened before [] = [] := by
  simp [piecesFrom]

theorem piecesFrom_char {c : Char} {rest : List Char}
    (h : ReferenceText.split? (c :: rest) = none) :
    piecesFrom opened before (c :: rest) =
      .char c :: piecesFrom (openQuote opened c) (some c) rest := by
  rw [piecesFrom.eq_def]
  dsimp only
  split
  · rename_i heq
    rw [h] at heq
    cases heq
  · rfl

theorem piecesFrom_split {c : Char} {rest behind : List Char} {source : ReferenceText}
    (h : ReferenceText.split? (c :: rest) = some (source, behind)) :
    piecesFrom opened before (c :: rest) =
      source.pieces opened before behind.head? ++
        piecesFrom opened source.chars.getLast? behind := by
  rw [piecesFrom.eq_def]
  dsimp only
  split
  · rename_i heq
    rw [h] at heq
    cases heq
    rfl
  · rename_i heq
    rw [h] at heq
    cases heq

/-- A reference in quotes, or one that does not stand for itself, is cut into characters. -/
theorem piecesFrom_skip {c : Char} {rest behind : List Char} {source : ReferenceText}
    (h : ReferenceText.split? (c :: rest) = some (source, behind))
    (hskip : opened.isSome = true ∨ standsAlone before behind.head? = false) :
    piecesFrom opened before (c :: rest) =
      source.chars.map .char ++ piecesFrom opened source.chars.getLast? behind := by
  rw [piecesFrom_split h]
  congr 1
  unfold ReferenceText.pieces
  rw [if_neg]
  rcases hskip with hskip | hskip
  · simp [Option.isNone_eq_false_iff.2 hskip]
  · simp [hskip]

theorem piecesFrom_reference {c : Char} {rest behind : List Char} {source : ReferenceText}
    {ref : Reference} (h : ReferenceText.split? (c :: rest) = some (source, behind))
    (halone : standsAlone before behind.head? = true)
    (href : source.reference? (before == some '!') = some ref) :
    piecesFrom none before (c :: rest) =
      .reference source ref :: piecesFrom none source.chars.getLast? behind := by
  rw [piecesFrom_split h]
  unfold ReferenceText.pieces
  rw [if_pos (by simp [halone]), href]
  rfl

/-! ## Where a reference can begin -/

/-- Characters that a reference can begin with. -/
def beginsCorner (c : Char) : Bool := c = '$' || c.isUpper

theorem CornerText.split?_eq_none_of_head {c : Char} (rest : List Char)
    (h : beginsCorner c = false) : CornerText.split? (c :: rest) = none := by
  simp only [beginsCorner, Bool.or_eq_false_iff, decide_eq_false_iff_not] at h
  have hdollar : splitDollar (c :: rest) = (false, c :: rest) := by
    unfold splitDollar
    split
    · rename_i heq
      cases heq
      exact absurd rfl h.1
    · rfl
  unfold CornerText.split?
  dsimp only
  rw [if_pos]
  left
  rw [hdollar, List.takeWhile_cons_of_neg]
  simpa [CornerText.isColumnLetter] using h.2

theorem ReferenceText.split?_eq_none {text : List Char} (h : CornerText.split? text = none) :
    ReferenceText.split? text = none := by
  rw [ReferenceText.split?, h]
  rfl

theorem piecesFrom_plain_cons {c : Char} (rest : List Char) (h : beginsCorner c = false) :
    piecesFrom opened before (c :: rest) =
      .char c :: piecesFrom (openQuote opened c) (some c) rest :=
  piecesFrom_char (ReferenceText.split?_eq_none (CornerText.split?_eq_none_of_head rest h))

/-- Characters outside of quotes that no reference begins with, one after another. -/
theorem piecesFrom_plain {run : List Char} (rest : List Char)
    (h : ∀ c ∈ run, beginsCorner c = false ∧ c ≠ '"' ∧ c ≠ '\'') :
    piecesFrom none before (run ++ rest) =
      run.map .char ++ piecesFrom none (run.getLast?.or before) rest := by
  induction run generalizing before with
  | nil => rfl
  | cons c run ih =>
    obtain ⟨hc, hdouble, hsingle⟩ := h c (List.mem_cons_self ..)
    have hopen : openQuote none c = none := by simp [openQuote, hdouble, hsingle]
    rw [List.cons_append, piecesFrom_plain_cons _ hc, hopen,
      ih fun d hd => h d (List.mem_cons_of_mem _ hd), List.map_cons, List.cons_append,
      List.getLast?_cons]
    cases run.getLast? <;> rfl

/-! ## The characters of a reference -/

/-- Characters that references are made of. -/
def inReference (c : Char) : Bool := c = '$' || c.isUpper || isDecimalDigit c || c = ':'

theorem CornerText.inReference_of_split? {text behind : List Char} {corner : CornerText}
    (h : CornerText.split? text = some (corner, behind)) :
    ∀ c ∈ corner.chars, inReference c = true := by
  have hdollar : ∀ (b : Bool), ∀ c ∈ dollar b, inReference c = true := by
    intro b c hc
    cases b
    · cases hc
    · obtain rfl := List.mem_singleton.1 hc
      decide
  simp only [CornerText.split?] at h
  split at h
  · cases h
  · simp only [Option.some.injEq, Prod.mk.injEq] at h
    obtain ⟨rfl, rfl⟩ := h
    intro c hc
    simp only [CornerText.chars, List.mem_append] at hc
    rcases hc with ((hc | hc) | hc) | hc
    · exact hdollar _ c hc
    · have : c.isUpper = true := List.mem_takeWhile_imp hc
      simp [inReference, this]
    · exact hdollar _ c hc
    · have := List.mem_takeWhile_imp hc
      simp [inReference, this]

theorem ReferenceText.inReference_of_split? {text behind : List Char} {source : ReferenceText}
    (h : ReferenceText.split? text = some (source, behind)) :
    ∀ c ∈ source.chars, inReference c = true := by
  simp only [ReferenceText.split?, Option.map_eq_some_iff, Prod.exists] at h
  obtain ⟨first, rest, hfirst, h⟩ := h
  have hin := CornerText.inReference_of_split? hfirst
  split at h
  · split at h
    · rename_i hlast
      simp only [Prod.mk.injEq] at h
      obtain ⟨rfl, rfl⟩ := h
      intro c hc
      simp only [ReferenceText.chars, List.mem_append, List.mem_cons] at hc
      rcases hc with hc | rfl | hc
      · exact hin c hc
      · decide
      · exact CornerText.inReference_of_split? hlast c hc
    · simp only [Prod.mk.injEq] at h
      obtain ⟨rfl, rfl⟩ := h
      exact hin
  · simp only [Prod.mk.injEq] at h
    obtain ⟨rfl, rfl⟩ := h
    exact hin

/-- A reference that begins in a run of text ends in it if the character behind the run is in no
reference. -/
theorem ReferenceText.split?_append {run tail behind : List Char} {source : ReferenceText}
    (h : ReferenceText.split? (run ++ tail) = some (source, behind))
    (htail : ∀ c ∈ tail.head?, inReference c = false) :
    ∃ more, run = source.chars ++ more ∧ behind = more ++ tail := by
  have happ := ReferenceText.chars_split? h
  have hin := ReferenceText.inReference_of_split? h
  rcases List.append_eq_append_iff.1 happ with ⟨more, hrun, hbehind⟩ | ⟨extra, hsource, hextra⟩
  · exact ⟨more, hrun, hbehind⟩
  · cases extra with
    | nil =>
      rw [List.append_nil] at hsource
      exact ⟨[], by rw [hsource, List.append_nil], hextra.symm⟩
    | cons c extra =>
      have hc : c ∈ source.chars := by
        rw [hsource]
        exact List.mem_append_right _ (List.mem_cons_self ..)
      rw [List.cons_append] at hextra
      have := htail c (by rw [hextra]; rfl)
      rw [hin c hc] at this
      cases this

/-- A run of text in which no reference stands for itself. -/
theorem piecesFrom_run (before : Option Char)
    {run tail : List Char} (hopen : ∀ c ∈ run, openQuote opened c = opened)
    (htail : ∀ c ∈ tail.head?, inReference c = false)
    (hskip : ∀ before more, more <:+ run →
      opened.isSome = true ∨ standsAlone before (more ++ tail).head? = false) :
    ∃ last, piecesFrom opened before (run ++ tail) =
      run.map .char ++ piecesFrom opened last tail := by
  induction hn : run.length using Nat.strong_induction_on generalizing run before with
  | _ n ih =>
    cases run with
    | nil => exact ⟨before, rfl⟩
    | cons c run =>
      cases h : ReferenceText.split? (c :: (run ++ tail)) with
      | none =>
        obtain ⟨last, hlast⟩ := ih run.length (by simp [← hn]) (some c)
          (fun d hd => hopen d (List.mem_cons_of_mem _ hd))
          (fun b more hmore => hskip b more (hmore.trans (List.suffix_cons c run))) rfl
        refine ⟨last, ?_⟩
        rw [List.cons_append, piecesFrom_char h, hopen c (List.mem_cons_self ..), hlast,
          List.map_cons, List.cons_append]
      | some r =>
        obtain ⟨source, behind⟩ := r
        rw [← List.cons_append] at h
        obtain ⟨more, hmore, rfl⟩ := ReferenceText.split?_append h htail
        rw [List.cons_append] at h
        have hsuffix : more <:+ c :: run := ⟨source.chars, hmore.symm⟩
        have hpos := List.length_pos_iff.2 (ReferenceText.chars_ne_nil h)
        have hlen : more.length < n := by
          rw [← hn, hmore, List.length_append]
          omega
        obtain ⟨last, hlast⟩ := ih more.length hlen source.chars.getLast?
          (fun d hd => hopen d (hsuffix.subset hd))
          (fun b more' hmore' => hskip b more' (hmore'.trans hsuffix)) rfl
        refine ⟨last, ?_⟩
        rw [List.cons_append, piecesFrom_skip h (hskip before more hsuffix), hlast,
          ← List.append_assoc, ← List.map_append, ← hmore]

/-! ## Quotes -/

theorem beginsCorner_eq_false_of_isQuote {c : Char} (h : isQuote c = true) :
    beginsCorner c = false := by
  simp only [isQuote, Bool.or_eq_true, decide_eq_true_eq] at h
  rcases h with rfl | rfl <;> decide

theorem inReference_eq_false_of_isQuote {c : Char} (h : isQuote c = true) :
    inReference c = false := by
  simp only [isQuote, Bool.or_eq_true, decide_eq_true_eq] at h
  rcases h with rfl | rfl <;> decide +kernel

theorem isQuote_eq_false_of_inReference {c : Char} (h : inReference c = true) :
    isQuote c = false := by
  cases hq : isQuote c with
  | false => rfl
  | true =>
    rw [inReference_eq_false_of_isQuote hq] at h
    cases h

/-- The text up to the next quote, or to the end. -/
theorem piecesFrom_quoted (before : Option Char) {quote : Char} (hq : isQuote quote = true)
    {run tail : List Char} (hrun : quote ∉ run) (htail : ∀ c ∈ tail.head?, c = quote) :
    ∃ last, piecesFrom (some quote) before (run ++ tail) =
      run.map .char ++ piecesFrom (some quote) last tail := by
  refine piecesFrom_run before (fun c hc => ?_)
    (fun c hc => inReference_eq_false_of_isQuote (htail c hc ▸ hq)) fun _ _ _ => Or.inl rfl
  rw [openQuote, if_neg]
  rintro rfl
  exact hrun hc

theorem piecesFrom_close {quote : Char} (hq : isQuote quote = true) (rest : List Char) :
    piecesFrom (some quote) before (quote :: rest) =
      .char quote :: piecesFrom none (some quote) rest := by
  rw [piecesFrom_plain_cons _ (beginsCorner_eq_false_of_isQuote hq)]
  simp [openQuote]

theorem piecesFrom_open {quote : Char} (hq : isQuote quote = true) (rest : List Char) :
    piecesFrom none before (quote :: rest) =
      .char quote :: piecesFrom (some quote) (some quote) rest := by
  rw [piecesFrom_plain_cons _ (beginsCorner_eq_false_of_isQuote hq), openQuote_none, if_pos hq]

theorem quotedBody_of_notMem {quote : Char} {run : List Char} (hrun : quote ∉ run) :
    quotedBody quote run = (run, []) := by
  induction run with
  | nil => rfl
  | cons c run ih =>
    rw [List.mem_cons, not_or] at hrun
    cases run with
    | nil => rw [quotedBody, if_neg (Ne.symm hrun.1)]
    | cons d run => rw [quotedBody, if_neg (Ne.symm hrun.1), ih hrun.2]

theorem quotedBody_append {quote : Char} {run : List Char} (hrun : quote ∉ run)
    (rest : List Char) :
    quotedBody quote (run ++ quote :: rest) =
      (run ++ (quotedBody quote (quote :: rest)).1, (quotedBody quote (quote :: rest)).2) := by
  induction run with
  | nil => rfl
  | cons c run ih =>
    rw [List.mem_cons, not_or] at hrun
    obtain ⟨d, more, hmore⟩ : ∃ d more, run ++ quote :: rest = d :: more := by
      cases run with
      | nil => exact ⟨_, _, rfl⟩
      | cons d run => exact ⟨_, _, rfl⟩
    rw [List.cons_append, hmore, quotedBody, if_neg (Ne.symm hrun.1), ← hmore, ih hrun.2]
    rfl

/-- The text in quotes, up to the closing quote or to the end. -/
theorem piecesFrom_quotedBody (before : Option Char) {quote : Char} (hq : isQuote quote = true)
    {text body behind : List Char} (h : quotedBody quote text = (body, behind)) :
    ∃ run last, text = run ++ behind ∧
      piecesFrom (some quote) before text = run.map .char ++ piecesFrom none last behind := by
  induction hn : text.length using Nat.strong_induction_on generalizing text body before with
  | _ n ih =>
    obtain ⟨run, tail, rfl, hrun, htail⟩ : ∃ run tail, text = run ++ tail ∧ quote ∉ run ∧
        ∀ c ∈ tail.head?, c = quote := by
      refine ⟨text.takeWhile (· ≠ quote), text.dropWhile (· ≠ quote),
        (List.takeWhile_append_dropWhile).symm, fun hm => ?_, fun c hc => ?_⟩
      · have := List.mem_takeWhile_imp hm
        simp at this
      · have := head?_dropWhile (p := (· ≠ quote)) text c hc
        simpa using this
    obtain ⟨last, hpieces⟩ := piecesFrom_quoted before hq hrun htail
    rw [hpieces]
    cases tail with
    | nil =>
      rw [List.append_nil, quotedBody_of_notMem hrun] at h
      cases h
      exact ⟨_, none, rfl, by simp⟩
    | cons c rest =>
      obtain rfl : c = quote := htail c rfl
      rw [quotedBody_append hrun] at h
      rw [piecesFrom_close hq]
      cases rest with
      | nil =>
        simp only [quotedBody, if_true, List.append_nil, Prod.mk.injEq] at h
        obtain ⟨-, rfl⟩ := h
        exact ⟨run ++ [c], none, by simp, by simp⟩
      | cons d rest =>
        by_cases hd : d = c
        · -- a doubled quote: the text goes on behind it
          subst hd
          simp only [quotedBody, if_true, Prod.mk.injEq] at h
          obtain ⟨-, rfl⟩ := h
          obtain ⟨run', last', hrest, hih⟩ :=
            ih rest.length (by simp [← hn]; omega) (some d) (rfl : quotedBody d rest = (_, _)) rfl
          refine ⟨run ++ d :: d :: run', last', ?_, ?_⟩
          · rw [List.append_assoc, List.cons_append, List.cons_append, ← hrest]
          · rw [piecesFrom_open hq, hih]
            simp
        · simp only [quotedBody, if_true, if_neg hd, List.append_nil, Prod.mk.injEq] at h
          obtain ⟨-, rfl⟩ := h
          exact ⟨run ++ [c], some c, by simp, by simp⟩

/-! ## Names of functions and sheets -/

theorem joinsWord_of_continuesName {c : Char} (h : continuesName c = true) :
    (joinsWord c || c = '$') = true := by
  simp only [continuesName, startsName, Bool.or_eq_true, decide_eq_true_eq] at h
  rcases h with (((h | rfl) | h) | rfl) | rfl
  · rw [joinsWord_of_isAsciiLetter h]
    rfl
  · decide +kernel
  · rw [joinsWord_of_isAsciiDigit h]
    rfl
  · decide +kernel
  · decide +kernel

theorem openQuote_of_continuesName {c : Char} (h : continuesName c = true) :
    openQuote none c = none := by
  rw [openQuote_none, isQuote_eq_false_of_continuesName h]
  rfl

/-- The name of a function or of a sheet: what looks like a reference in it is followed by more of
the name, or by the parenthesis or the exclamation mark behind it. -/
theorem piecesFrom_name {run : List Char} {mark : Char} (hmark : mark = '(' ∨ mark = '!')
    (rest : List Char) (hrun : ∀ c ∈ run, continuesName c = true) :
    piecesFrom none before (run ++ mark :: rest) =
      (run ++ [mark]).map .char ++ piecesFrom none (some mark) rest := by
  have htail : ∀ c ∈ (mark :: rest).head?, inReference c = false := fun c hc => by
    obtain rfl : mark = c := by simpa using hc
    rcases hmark with rfl | rfl <;> decide +kernel
  obtain ⟨last, hlast⟩ := piecesFrom_run before
    (fun c hc => openQuote_of_continuesName (hrun c hc)) htail
    fun b more hmore => by
      right
      cases more with
      | nil => rcases hmark with rfl | rfl <;> simp [standsAlone]
      | cons d more =>
        have hd := joinsWord_of_continuesName (hrun d (hmore.subset (List.mem_cons_self ..)))
        rw [Bool.or_eq_true, decide_eq_true_eq] at hd
        rcases hd with hd | rfl <;> simp [standsAlone, *]
  have hplain : beginsCorner mark = false ∧ openQuote none mark = none := by
    rcases hmark with rfl | rfl <;> decide
  rw [hlast, piecesFrom_plain_cons _ hplain.1, hplain.2]
  simp

/-! ## Corners -/

/-- A corner as it is found in a text: letters `A` to `Z` and digits of any script. -/
structure CornerText.Spelled (corner : CornerText) : Prop where
  letters_ne_nil : corner.letters ≠ []
  isUpper : ∀ c ∈ corner.letters, c.isUpper = true
  digits_ne_nil : corner.digits ≠ []
  isDecimalDigit : ∀ c ∈ corner.digits, SheetPress.isDecimalDigit c = true

/-- A corner as the parser reads it: letters `A` to `Z` and digits `0` to `9`. -/
structure CornerText.Proper (corner : CornerText) : Prop where
  letters_ne_nil : corner.letters ≠ []
  isUpper : ∀ c ∈ corner.letters, c.isUpper = true
  digits_ne_nil : corner.digits ≠ []
  isAsciiDigit : ∀ c ∈ corner.digits, SheetPress.isAsciiDigit c = true

theorem CornerText.Proper.spelled {corner : CornerText} (h : corner.Proper) : corner.Spelled :=
  ⟨h.letters_ne_nil, h.isUpper, h.digits_ne_nil, fun c hc =>
    isDecimalDigit_of_isAsciiDigit (h.isAsciiDigit c hc)⟩

theorem CornerText.Proper.chars_ne_nil {corner : CornerText} (h : corner.Proper) :
    corner.chars ≠ [] := by
  simp [CornerText.chars, h.letters_ne_nil]

theorem splitDollar_append (fixed : Bool) {text : List Char} (h : ∀ c ∈ text.head?, c ≠ '$') :
    splitDollar (dollar fixed ++ text) = (fixed, text) := by
  cases fixed
  · show splitDollar text = _
    unfold splitDollar
    split
    · exact absurd rfl (h '$' rfl)
    · rfl
  · rfl

/-- A corner is found in front of a text that does not go on with digits. -/
theorem CornerText.Spelled.split?_eq {corner : CornerText} (h : corner.Spelled) {tail : List Char}
    (htail : ∀ c ∈ tail.head?, SheetPress.isDecimalDigit c = false) :
    CornerText.split? (corner.chars ++ tail) = some (corner, tail) := by
  obtain ⟨columnFixed, letters, rowFixed, digits⟩ := corner
  obtain ⟨hletters, hupper, hdigits, hdigit⟩ := h
  dsimp only at hletters hupper hdigits hdigit
  have hhead : ∀ c ∈ (letters ++ (dollar rowFixed ++ (digits ++ tail))).head?, c ≠ '$' := by
    cases letters with
    | nil => exact absurd rfl hletters
    | cons l letters =>
      rintro c hc rfl
      obtain rfl : l = '$' := by simpa using hc
      exact absurd (hupper _ (List.mem_cons_self ..)) (by decide)
  have hhead' : ∀ c ∈ (digits ++ tail).head?, c ≠ '$' := by
    cases digits with
    | nil => exact absurd rfl hdigits
    | cons d digits =>
      rintro c hc rfl
      obtain rfl : d = '$' := by simpa using hc
      exact absurd (hdigit _ (List.mem_cons_self ..)) (by decide +kernel)
  have hnext : ∀ c ∈ (dollar rowFixed ++ (digits ++ tail)).head?,
      CornerText.isColumnLetter c = false := by
    intro c hc
    cases rowFixed
    · cases digits with
      | nil => exact absurd rfl hdigits
      | cons d digits =>
        obtain rfl : d = c := by simpa [dollar] using hc
        exact isUpper_eq_false_of_isDecimalDigit (hdigit d (List.mem_cons_self ..))
    · obtain rfl : '$' = c := by simpa [dollar] using hc
      decide
  obtain ⟨htake, hdrop⟩ := takeWhile_append_of_head (p := CornerText.isColumnLetter) hupper hnext
  obtain ⟨htake', hdrop'⟩ := takeWhile_append_of_head (p := SheetPress.isDecimalDigit) hdigit htail
  simp only [CornerText.split?, CornerText.chars, List.append_assoc, splitDollar_append _ hhead,
    htake, hdrop, splitDollar_append _ hhead', htake', hdrop']
  rw [if_neg (by simp [hletters, hdigits])]

theorem CornerText.Proper.split?_eq {corner : CornerText} (h : corner.Proper) {tail : List Char}
    (htail : ∀ c ∈ tail.head?, isDecimalDigit c = false) :
    CornerText.split? (corner.chars ++ tail) = some (corner, tail) :=
  h.spelled.split?_eq htail

/-! ## Between operands -/

/-- The characters that may stand in front of a reference: none that continues a name, and no
exclamation mark. -/
def Apart (before : Option Char) : Prop :=
  ∀ c ∈ before, joinsWord c = false ∧ c ≠ '$' ∧ c ≠ '!'

/-- Operators, commas, closing parentheses and blanks: what may stand behind an operand. -/
def isCloser (c : Char) : Bool :=
  c ∈ ['+', '-', '*', '/', '^', '&', '%', '=', '<', '>', ')', ','] || isBlank c

theorem of_isBlank {c : Char} (h : isBlank c = true) :
    isDecimalDigit c = false ∧ joinsWord c = false ∧ beginsCorner c = false ∧
      isQuote c = false ∧ continuesName c = false ∧ continuesNumeral c = false ∧ c ≠ '$' ∧
      c ≠ '!' ∧ c ≠ '(' ∧ c ≠ ':' :=
  of_isBlank_of_forall h (by decide +kernel)

theorem of_isCloser {c : Char} (h : isCloser c = true) :
    isDecimalDigit c = false ∧ joinsWord c = false ∧ beginsCorner c = false ∧
      isQuote c = false ∧ continuesName c = false ∧ continuesNumeral c = false ∧ c ≠ '$' ∧
      c ≠ '!' ∧ c ≠ '(' ∧ c ≠ ':' := by
  rw [isCloser, Bool.or_eq_true, decide_eq_true_eq] at h
  rcases h with h | h
  · fin_cases h <;> decide +kernel
  · exact of_isBlank h

/-- An operand may end in front of this text. -/
def Closes (rest : List Char) : Prop := ∀ c ∈ rest.head?, isCloser c = true

section Closes

variable {rest : List Char}

theorem Closes.ends_letters (h : Closes rest) :
    ∀ c ∈ rest.head?, beginsCorner c = false ∧ isDecimalDigit c = false := fun c hc =>
  ⟨(of_isCloser (h c hc)).2.2.1, (of_isCloser (h c hc)).1⟩

/-- Neither digits nor the second corner of a range come behind an operand. -/
theorem Closes.ends_corners (h : Closes rest) : ∀ c ∈ rest.head?, isDecimalDigit c = false ∧
    (c = ':' → CornerText.split? rest.tail = none) := fun c hc =>
  ⟨(of_isCloser (h c hc)).1, fun heq => absurd heq (of_isCloser (h c hc)).2.2.2.2.2.2.2.2.2⟩

theorem Closes.ends_name (h : Closes rest) : ∀ c ∈ rest.head?, continuesName c = false :=
  fun c hc => (of_isCloser (h c hc)).2.2.2.2.1

theorem Closes.ends_numeral (h : Closes rest) : ∀ c ∈ rest.head?, continuesNumeral c = false :=
  fun c hc => (of_isCloser (h c hc)).2.2.2.2.2.1

end Closes

theorem Closes.piecesFrom_eq {rest : List Char} (h : Closes rest) :
    piecesFrom none before rest = piecesFrom none none rest := by
  cases rest with
  | nil => simp
  | cons c rest =>
    have hc := (of_isCloser (h c rfl)).2.2.1
    rw [piecesFrom_plain_cons _ hc, piecesFrom_plain_cons _ hc]

/-- The characters that may stand in front of a reference that stands for itself: none that continues
a name. -/
def Parts (before : Option Char) : Prop := ∀ c ∈ before, joinsWord c = false ∧ c ≠ '$'

theorem Apart.parts (h : Apart before) : Parts before := fun c hc => ⟨(h c hc).1, (h c hc).2.1⟩

theorem Closes.standsAlone {rest : List Char} (h : Closes rest) (hbefore : Parts before) :
    standsAlone before rest.head? = true := by
  have hfront : before.any (fun c => joinsWord c || c = '$') = false := by
    cases before with
    | none => rfl
    | some c => simp [hbefore c rfl]
  have hback : rest.head?.any (fun c => joinsWord c || c = '(' || c = '$' || c = '!') = false := by
    cases rest with
    | nil => rfl
    | cons c rest => simp [of_isCloser (h c rfl)]
  unfold SheetPress.standsAlone
  rw [hfront, hback]
  rfl

theorem Apart.not_qualified (h : Apart before) : (before == some '!') = false := by
  cases before with
  | none => rfl
  | some c => simpa using (h c rfl).2.2

/-- A symbol holds no reference, and one may follow it. -/
theorem piecesFrom_symbol (symbol : Symbol) (h : symbol ≠ .exclamation) :
    ∃ last, Apart last ∧ ∀ before rest, piecesFrom none before (symbol.text.toList ++ rest) =
      symbol.text.toList.map .char ++ piecesFrom none last rest := by
  have hplain : ∀ c ∈ symbol.text.toList, beginsCorner c = false ∧ c ≠ '"' ∧ c ≠ '\'' := by
    cases symbol <;> exact forall_mem_of_all (by decide)
  have hapart : ∀ c ∈ symbol.text.toList, joinsWord c = false ∧ c ≠ '$' ∧ c ≠ '!' := by
    cases symbol <;> first | exact absurd rfl h | exact forall_mem_of_all (by decide +kernel)
  obtain ⟨last, hlast⟩ := Option.ne_none_iff_exists'.1
    (mt List.getLast?_eq_none_iff.1 symbol.text_ne_nil)
  refine ⟨some last, fun c hc => ?_, fun before rest => ?_⟩
  · obtain rfl : last = c := by simpa using hc
    exact hapart last (List.mem_of_getLast? hlast)
  · rw [piecesFrom_plain rest hplain, hlast]
    rfl

/-! ## References -/

/-- A reference to one cell is found. -/
theorem piecesFrom_corner {corner : CornerText} {ref : CellRef} {rest : List Char}
    (h : corner.Proper) (href : corner.ref? = some ref) (hbefore : Parts before)
    (hrest : Closes rest) :
    piecesFrom none before (corner.chars ++ rest) =
      .reference ⟨corner, none⟩ ⟨ref, none, before == some '!'⟩ :: piecesFrom none none rest := by
  have hsplit : ReferenceText.split? (corner.chars ++ rest) = some (⟨corner, none⟩, rest) := by
    rw [ReferenceText.split?, h.split?_eq fun c hc => (of_isCloser (hrest c hc)).1]
    simp only [Option.map_some, Option.some.injEq]
    split
    · exact absurd rfl (of_isCloser (hrest ':' rfl)).2.2.2.2.2.2.2.2.2
    · rfl
  obtain ⟨c, more, hcons⟩ := List.exists_cons_of_ne_nil h.chars_ne_nil
  rw [hcons, List.cons_append] at hsplit ⊢
  have hread : (ReferenceText.mk corner none).reference? (before == some '!') =
      some ⟨ref, none, before == some '!'⟩ := by
    simp [ReferenceText.reference?, href]
  rw [piecesFrom_reference hsplit (hrest.standsAlone hbefore) hread, hrest.piecesFrom_eq]

/-- A reference to a range is found as a whole. -/
theorem piecesFrom_corners {first last : CornerText} {a b : CellRef} {rest : List Char}
    (hfirst : first.Proper) (hlast : last.Proper) (ha : first.ref? = some a)
    (hb : last.ref? = some b) (hbefore : Parts before) (hrest : Closes rest) :
    piecesFrom none before (first.chars ++ ':' :: (last.chars ++ rest)) =
      .reference ⟨first, some last⟩ ⟨a, some b, before == some '!'⟩ ::
        piecesFrom none none rest := by
  have hsplit : ReferenceText.split? (first.chars ++ ':' :: (last.chars ++ rest)) =
      some (⟨first, some last⟩, rest) := by
    rw [ReferenceText.split?, hfirst.split?_eq fun c hc => ?_]
    · simp only [Option.map_some,
        hlast.split?_eq fun c hc => (of_isCloser (hrest c hc)).1]
    · obtain rfl : ':' = c := by simpa using hc
      decide +kernel
  obtain ⟨c, more, hcons⟩ :=
    List.exists_cons_of_ne_nil (hfirst.chars_ne_nil)
  rw [hcons, List.cons_append] at hsplit ⊢
  have hread : (ReferenceText.mk first (some last)).reference? (before == some '!') =
      some ⟨a, some b, before == some '!'⟩ := by
    simp [ReferenceText.reference?, ha, hb]
  rw [piecesFrom_reference hsplit (hrest.standsAlone hbefore) hread, hrest.piecesFrom_eq]

/-! ## Letters and numerals -/

theorem CornerText.split?_letters (fixed : Bool) {letters tail : List Char}
    (hletters : ∀ c ∈ letters, c.isUpper = true)
    (htail : ∀ c ∈ tail.head?, beginsCorner c = false ∧ isDecimalDigit c = false) :
    CornerText.split? (dollar fixed ++ (letters ++ tail)) = none := by
  have hhead : ∀ c ∈ (letters ++ tail).head?, c ≠ '$' := by
    rintro c hc rfl
    cases letters with
    | nil => exact absurd (htail _ hc).1 (by decide)
    | cons l letters =>
      obtain rfl : l = '$' := by simpa using hc
      exact absurd (hletters _ (List.mem_cons_self ..)) (by decide)
  have hupper : ∀ c ∈ tail.head?, CornerText.isColumnLetter c = false := by
    intro c hc
    have := (htail c hc).1
    simp only [beginsCorner, Bool.or_eq_false_iff] at this
    exact this.2
  have hdollar : splitDollar tail = (false, tail) := by
    have hplain : ∀ c ∈ tail.head?, c ≠ '$' := by
      rintro c hc rfl
      exact absurd (htail _ hc).1 (by decide)
    exact splitDollar_append false hplain
  have hdigits : tail.takeWhile isDecimalDigit = [] := by
    cases tail with
    | nil => rfl
    | cons c tail => rw [List.takeWhile_cons_of_neg (by simp [(htail c rfl).2])]
  obtain ⟨htake, hdrop⟩ := takeWhile_append_of_head (p := CornerText.isColumnLetter) hletters hupper
  simp only [CornerText.split?, splitDollar_append _ hhead, hdrop, hdollar, hdigits]
  rw [if_pos (Or.inr trivial)]

/-- Letters without digits behind them. -/
theorem piecesFrom_letters (before : Option Char)
    {letters tail : List Char} (hletters : ∀ c ∈ letters, c.isUpper = true)
    (htail : ∀ c ∈ tail.head?, beginsCorner c = false ∧ isDecimalDigit c = false) :
    ∃ last, piecesFrom none before (letters ++ tail) =
      letters.map .char ++ piecesFrom none last tail := by
  induction letters generalizing before with
  | nil => exact ⟨before, rfl⟩
  | cons c letters ih =>
    obtain ⟨last, hlast⟩ := ih (some c) fun d hd => hletters d (List.mem_cons_of_mem _ hd)
    have hopen : openQuote none c = none := by
      refine openQuote_of_continuesName ?_
      have : isAsciiLetter c = true := isAsciiLetter_iff.2 (Or.inl (hletters c (by simp)))
      simp [continuesName, startsName, this]
    refine ⟨last, ?_⟩
    rw [List.cons_append, piecesFrom_char, hopen, hlast, List.map_cons, List.cons_append]
    have hnone := CornerText.split?_letters false hletters htail
    exact ReferenceText.split?_eq_none hnone

/-- The name of a column. -/
theorem piecesFrom_column (before : Option Char) (fixed : Bool)
    {letters tail : List Char} (hletters : ∀ c ∈ letters, c.isUpper = true)
    (htail : ∀ c ∈ tail.head?, beginsCorner c = false ∧ isDecimalDigit c = false) :
    ∃ last, piecesFrom none before (dollar fixed ++ letters ++ tail) =
      (dollar fixed ++ letters).map .char ++ piecesFrom none last tail := by
  cases fixed
  · exact piecesFrom_letters before hletters htail
  · obtain ⟨last, hlast⟩ := piecesFrom_letters (some '$') hletters htail
    refine ⟨last, ?_⟩
    have hsplit : ReferenceText.split? ('$' :: (letters ++ tail)) = none :=
      ReferenceText.split?_eq_none (CornerText.split?_letters true hletters htail)
    show piecesFrom none before ('$' :: (letters ++ tail)) = .char '$' :: (letters.map .char ++ _)
    rw [piecesFrom_char hsplit, ← hlast]
    rfl

theorem beginsCorner_eq_false_of_digit {c : Char} (h : isAsciiDigit c = true) :
    beginsCorner c = false ∧ c ≠ '"' ∧ c ≠ '\'' := by
  have hupper : c.isUpper = false := by
    rw [isAsciiDigit_iff] at h
    rw [← Bool.not_eq_true, isUpper_iff]
    omega
  refine ⟨?_, ?_, ?_⟩
  · rw [beginsCorner, hupper, Bool.or_false, decide_eq_false_iff_not]
    rintro rfl
    exact absurd h (by decide)
  · rintro rfl
    exact absurd h (by decide)
  · rintro rfl
    exact absurd h (by decide)

/-- No corner begins with a digit or a point. -/
theorem CornerText.split?_numeral {numeral : List Char} (rest : List Char)
    (hstart : ∃ c more, numeral = c :: more ∧ (isAsciiDigit c || c = '.') = true) :
    CornerText.split? (numeral ++ rest) = none := by
  obtain ⟨c, more, rfl, hc⟩ := hstart
  refine CornerText.split?_eq_none_of_head _ ?_
  rw [Bool.or_eq_true, decide_eq_true_eq] at hc
  rcases hc with hc | rfl
  · exact (beginsCorner_eq_false_of_digit hc).1
  · decide

/-- The exponent of a numeral: `E5` in `1E5` looks like a cell, but a digit stands in front of it. -/
theorem piecesFrom_exponent {front mark : Char} {sign digits tail : List Char}
    (hjoins : joinsWord front = true) (hmark : mark = 'e' ∨ mark = 'E')
    (hsign : sign ∈ [[], ['+'], ['-']]) (hdigits : digits ≠ [])
    (hdigit : ∀ c ∈ digits, isAsciiDigit c = true)
    (htail : ∀ c ∈ tail.head?, isDecimalDigit c = false ∧
      (c = ':' → CornerText.split? tail.tail = none)) :
    ∃ last, piecesFrom none (some front) (mark :: ((sign ++ digits) ++ tail)) =
      (mark :: (sign ++ digits)).map .char ++ piecesFrom none last tail := by
  simp only [List.mem_cons, List.not_mem_nil, or_false] at hsign
  have hmarkQuote : openQuote none mark = none := by rcases hmark with rfl | rfl <;> rfl
  have hrun : ∀ c ∈ sign ++ digits, beginsCorner c = false ∧ c ≠ '"' ∧ c ≠ '\'' := by
    intro c hc
    rcases List.mem_append.1 hc with hc | hc
    · rcases hsign with rfl | rfl | rfl
      · cases hc
      · obtain rfl := List.mem_singleton.1 hc; decide
      · obtain rfl := List.mem_singleton.1 hc; decide
    · exact beginsCorner_eq_false_of_digit (hdigit c hc)
  by_cases hcorner : mark = 'E' ∧ sign = []
  · obtain ⟨rfl, rfl⟩ := hcorner
    have hproper : (CornerText.mk false ['E'] false digits).Proper :=
      ⟨by simp, by simp, hdigits, hdigit⟩
    have hsplit : ReferenceText.split? ('E' :: (digits ++ tail)) =
        some (⟨⟨false, ['E'], false, digits⟩, none⟩, tail) := by
      have := hproper.split?_eq fun c hc => (htail c hc).1
      rw [ReferenceText.split?, show 'E' :: (digits ++ tail) =
        (CornerText.mk false ['E'] false digits).chars ++ tail from rfl, this]
      simp only [Option.map_some, Option.some.injEq]
      split
      · rename_i more
        have hmore : CornerText.split? more = none := (htail ':' rfl).2 rfl
        simp only [hmore]
      · rfl
    have hskip : standsAlone (some front) tail.head? = false := by simp [standsAlone, hjoins]
    rw [List.nil_append, piecesFrom_skip hsplit (Or.inr hskip)]
    exact ⟨_, rfl⟩
  · have hsplit : ReferenceText.split? (mark :: ((sign ++ digits) ++ tail)) = none := by
      refine ReferenceText.split?_eq_none ?_
      rcases hmark with rfl | rfl
      · exact CornerText.split?_eq_none_of_head _ (by decide)
      · have hupper : ∀ c ∈ ['E'], c.isUpper = true := by simp
        refine CornerText.split?_letters false hupper fun c hc => ?_
        rcases hsign with rfl | rfl | rfl
        · exact absurd ⟨rfl, rfl⟩ hcorner
        · obtain rfl : '+' = c := by simpa using hc
          decide +kernel
        · obtain rfl : '-' = c := by simpa using hc
          decide +kernel
    rw [piecesFrom_char hsplit, hmarkQuote, piecesFrom_plain _ hrun]
    exact ⟨(sign ++ digits).getLast?.or (some mark), rfl⟩

/-- A numeral holds no reference. -/
theorem piecesFrom_numeral (before : Option Char)
    {numeral tail : List Char} (h : IsNumeral numeral)
    (hstart : ∃ c more, numeral = c :: more ∧ (isAsciiDigit c || c = '.') = true)
    (htail : ∀ c ∈ tail.head?, isDecimalDigit c = false ∧
      (c = ':' → CornerText.split? tail.tail = none)) :
    ∃ last, piecesFrom none before (numeral ++ tail) =
      numeral.map .char ++ piecesFrom none last tail := by
  replace hstart : ∀ c ∈ numeral.head?, (isAsciiDigit c || c = '.') = true := by
    obtain ⟨c, more, rfl, hc⟩ := hstart
    simpa using hc
  obtain ⟨whole, fraction, exponent, hwhole, hfraction, hexponent, rfl⟩ := h
  have hfront : ∀ c ∈ whole ++ fraction, (isAsciiDigit c || c = '.') = true := by
    intro c hc
    rcases List.mem_append.1 hc with hc | hc
    · simp [hwhole c hc]
    · rcases hfraction with rfl | ⟨digits, hdigits, rfl⟩
      · cases hc
      · rcases List.mem_cons.1 hc with rfl | hc
        · decide
        · simp [hdigits c hc]
  have hplain : ∀ c ∈ whole ++ fraction, beginsCorner c = false ∧ c ≠ '"' ∧ c ≠ '\'' := by
    intro c hc
    have := hfront c hc
    rw [Bool.or_eq_true, decide_eq_true_eq] at this
    rcases this with hd | rfl
    · exact beginsCorner_eq_false_of_digit hd
    · decide
  rw [List.append_assoc, piecesFrom_plain _ hplain]
  rcases hexponent with rfl | ⟨mark, sign, digits, hmark, hsign, hdigits, hdigit, rfl⟩
  · exact ⟨_, by rw [List.nil_append, List.append_nil]⟩
  · -- a digit or a point stands in front of the exponent
    obtain ⟨front, hlast, hjoins⟩ : ∃ d, (whole ++ fraction).getLast?.or before = some d ∧
        joinsWord d = true := by
      cases hgl : (whole ++ fraction).getLast? with
      | none =>
        rw [List.getLast?_eq_none_iff] at hgl
        rw [hgl] at hstart
        have := hstart mark rfl
        rcases hmark with rfl | rfl <;> exact absurd this (by decide)
      | some d =>
        have := hfront d (List.mem_of_getLast? hgl)
        rw [Bool.or_eq_true, decide_eq_true_eq] at this
        refine ⟨d, rfl, ?_⟩
        rcases this with hd | rfl
        · exact joinsWord_of_isAsciiDigit hd
        · decide +kernel
    obtain ⟨last, hpieces⟩ := piecesFrom_exponent hjoins hmark hsign hdigits hdigit htail
    refine ⟨last, ?_⟩
    rw [hlast, List.cons_append, hpieces, ← List.append_assoc, ← List.map_append]

/-! ## Whole columns and rows -/

/-- Two names of columns with a colon between them. -/
theorem piecesFrom_columns (before : Option Char) (fixed fixed' : Bool)
    {letters letters' rest : List Char} (hletters : ∀ c ∈ letters, c.isUpper = true)
    (hletters' : ∀ c ∈ letters', c.isUpper = true) (hrest : Closes rest) :
    piecesFrom none before
        (dollar fixed ++ letters ++ ':' :: (dollar fixed' ++ letters' ++ rest)) =
      (dollar fixed ++ letters ++ ':' :: (dollar fixed' ++ letters')).map .char ++
        piecesFrom none none rest := by
  have hcolon : ∀ c ∈ (':' :: (dollar fixed' ++ letters' ++ rest)).head?,
      beginsCorner c = false ∧ isDecimalDigit c = false := by
    intro c hc
    obtain rfl : ':' = c := by simpa using hc
    decide +kernel
  obtain ⟨front, hfront⟩ := piecesFrom_column before fixed hletters hcolon
  obtain ⟨back, hback⟩ := piecesFrom_column (some ':') fixed' hletters' hrest.ends_letters
  rw [hfront, piecesFrom_plain_cons _ (by decide), show openQuote none ':' = none from rfl, hback,
    hrest.piecesFrom_eq]
  simp

/-- Two numerals with a colon between them. -/
theorem piecesFrom_rows (before : Option Char) {numeral numeral' rest : List Char}
    (h : IsNumeral numeral) (h' : IsNumeral numeral')
    (hstart : ∃ c more, numeral = c :: more ∧ (isAsciiDigit c || c = '.') = true)
    (hstart' : ∃ c more, numeral' = c :: more ∧ (isAsciiDigit c || c = '.') = true)
    (hrest : Closes rest) :
    piecesFrom none before (numeral ++ ':' :: (numeral' ++ rest)) =
      (numeral ++ ':' :: numeral').map .char ++ piecesFrom none none rest := by
  -- the second number is no corner, so the exponent of the first one is none either
  have hbehind : ∀ c ∈ (':' :: (numeral' ++ rest)).head?, isDecimalDigit c = false ∧
      (c = ':' → CornerText.split? (':' :: (numeral' ++ rest)).tail = none) := by
    intro c hc
    obtain rfl : ':' = c := by simpa using hc
    exact ⟨by decide +kernel, fun _ => CornerText.split?_numeral rest hstart'⟩
  obtain ⟨front, hfront⟩ := piecesFrom_numeral before h hstart hbehind
  obtain ⟨back, hback⟩ := piecesFrom_numeral (some ':') h' hstart' hrest.ends_corners
  rw [hfront, piecesFrom_plain_cons _ (by decide), show openQuote none ':' = none from rfl, hback,
    hrest.piecesFrom_eq]
  simp

end SheetPress
