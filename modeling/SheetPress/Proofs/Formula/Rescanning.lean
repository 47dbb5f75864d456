import Mathlib
import SheetPress.Proofs.Formula.Rewriting

/-!
# References found again

The text that an edit makes of a formula is cut into pieces again when the next edit comes.  Where
the edit gave each reference the text of another one, or the error of a lost one, the pieces of the
new text are those of the old one with these references and errors in their places, whether the
formula parses or not.

* `ReferenceText.split?_eq` — a reference is found again in front of a text that does not continue
  it.
* `takeWhile_editedFrom` — an edit reaches no character that a reference in front of it could take in.
* `piecesFrom_referenceError` — nothing in the error of a lost reference is a reference.
* `piecesOf_mapReferences_replace`, `piecesOf_mapReferences` — the pieces of an edited text.
-/

namespace SheetPress

/-! ## References in front of a text -/

theorem CornerText.spelled_of_split? {text behind : List Char} {corner : CornerText}
    (h : CornerText.split? text = some (corner, behind)) :
    corner.Spelled ∧ ∀ c ∈ behind.head?, isDecimalDigit c = false := by
  simp only [CornerText.split?] at h
  split at h
  · cases h
  · rename_i hne
    rw [not_or] at hne
    simp only [Option.some.injEq, Prod.mk.injEq] at h
    obtain ⟨rfl, rfl⟩ := h
    refine ⟨⟨hne.1, fun c hc => ?_, hne.2, fun c hc => List.mem_takeWhile_imp hc⟩,
      head?_dropWhile _⟩
    exact List.mem_takeWhile_imp (p := CornerText.isColumnLetter) hc

theorem CornerText.Spelled.getLast?_chars {corner : CornerText} (h : corner.Spelled) :
    ∃ d, corner.chars.getLast? = some d ∧ SheetPress.isDecimalDigit d = true := by
  obtain ⟨d, hd⟩ := Option.ne_none_iff_exists'.1 (mt List.getLast?_eq_none_iff.1 h.digits_ne_nil)
  refine ⟨d, ?_, h.isDecimalDigit d (List.mem_of_getLast? hd)⟩
  rw [CornerText.chars, List.getLast?_append, hd]
  rfl

namespace ReferenceText

/-- A reference all of whose corners are spelled as a text spells them. -/
def Spelled (source : ReferenceText) : Prop :=
  source.first.Spelled ∧ ∀ last ∈ source.last, last.Spelled

/-- A text that does not continue the reference in front of it: neither with digits nor with a
second corner. -/
structure EndsBefore (source : ReferenceText) (behind : List Char) : Prop where
  isDecimalDigit : ∀ c ∈ behind.head?, isDecimalDigit c = false
  noCorner : source.last = none → ∀ more, behind = ':' :: more → CornerText.split? more = none

theorem spelled_of_split? {text behind : List Char} {source : ReferenceText}
    (h : split? text = some (source, behind)) : source.Spelled ∧ source.EndsBefore behind := by
  simp only [split?, Option.map_eq_some_iff, Prod.exists] at h
  obtain ⟨first, rest, hfirst, h⟩ := h
  obtain ⟨hspelled, hdigit⟩ := CornerText.spelled_of_split? hfirst
  split at h
  · split at h
    · rename_i hlast
      simp only [Prod.mk.injEq] at h
      obtain ⟨rfl, rfl⟩ := h
      obtain ⟨hspelled', hdigit'⟩ := CornerText.spelled_of_split? hlast
      exact ⟨⟨hspelled, by simpa using hspelled'⟩, hdigit', by simp⟩
    · rename_i hlast
      simp only [Prod.mk.injEq] at h
      obtain ⟨rfl, rfl⟩ := h
      exact ⟨⟨hspelled, by simp⟩, hdigit, by simpa using hlast⟩
  · rename_i hcolon
    simp only [Prod.mk.injEq] at h
    obtain ⟨rfl, rfl⟩ := h
    exact ⟨⟨hspelled, by simp⟩, hdigit, fun _ more hmore => absurd hmore (hcolon more)⟩

/-- A reference is found again in front of a text that does not continue it. -/
theorem split?_eq {source : ReferenceText} {behind : List Char} (h : source.Spelled)
    (hends : source.EndsBefore behind) :
    split? (source.chars ++ behind) = some (source, behind) := by
  obtain ⟨first, last⟩ := source
  obtain ⟨hfirst, hlast⟩ := h
  cases last with
  | none =>
    rw [chars, split?, hfirst.split?_eq hends.isDecimalDigit, Option.map_some]
    dsimp only
    split
    · rename_i more
      rw [hends.noCorner rfl more rfl]
    · rfl
  | some last =>
    have hcolon : ∀ c ∈ (':' :: (last.chars ++ behind)).head?, isDecimalDigit c = false := by
      intro c hc
      obtain rfl : ':' = c := by simpa using hc
      decide +kernel
    have hsplit := (hlast last rfl).split?_eq hends.isDecimalDigit
    rw [chars, List.append_assoc, List.cons_append, split?, hfirst.split?_eq hcolon, Option.map_some]
    simp only [hsplit]

theorem Spelled.inReference {source : ReferenceText} (h : source.Spelled) :
    ∀ c ∈ source.chars, SheetPress.inReference c = true := by
  have hends : source.EndsBefore [] := ⟨by simp, by simp⟩
  exact inReference_of_split? (split?_eq h hends)

theorem Spelled.isQuote_eq_false {source : ReferenceText} (h : source.Spelled) :
    ∀ c ∈ source.chars, isQuote c = false := fun c hc =>
  isQuote_eq_false_of_inReference (h.inReference c hc)

theorem split?_eq_none_iff {text : List Char} :
    split? text = none ↔ CornerText.split? text = none := by
  rw [split?, Option.map_eq_none_iff]

/-- A reference ends in a digit. -/
theorem Spelled.getLast?_chars {source : ReferenceText} (h : source.Spelled) :
    ∃ d, source.chars.getLast? = some d ∧ isDecimalDigit d = true := by
  obtain ⟨first, last⟩ := source
  cases last with
  | none => exact h.1.getLast?_chars
  | some last =>
    obtain ⟨d, hd, hdigit⟩ := (h.2 last rfl).getLast?_chars
    exact ⟨d, by rw [chars, List.getLast?_append, List.getLast?_cons, hd]; rfl, hdigit⟩

end ReferenceText

/-! ## What a search for a corner looks at -/

/-- Characters that a corner is made of. -/
def inCorner (c : Char) : Bool := c = '$' || c.isUpper || isDecimalDigit c

theorem takeWhile_append_congr {p : Char → Bool} (front : List Char) {tail tail' : List Char}
    (h : tail.takeWhile p = tail'.takeWhile p) :
    (front ++ tail).takeWhile p = (front ++ tail').takeWhile p := by
  rw [List.takeWhile_append, List.takeWhile_append, h]

theorem takeWhile_takeWhile_of_imp {p q : Char → Bool} (hpq : ∀ c, p c = true → q c = true)
    (text : List Char) : (text.takeWhile q).takeWhile p = text.takeWhile p := by
  rw [List.takeWhile_takeWhile]
  congr 1
  funext c
  cases hp : p c
  · simp
  · simp [hpq c hp]

theorem dropWhile_takeWhile_of_imp {p q : Char → Bool} (hpq : ∀ c, p c = true → q c = true)
    (text : List Char) : (text.takeWhile q).dropWhile p = (text.dropWhile p).takeWhile q := by
  induction text with
  | nil => rfl
  | cons c text ih =>
    cases hp : p c
    · cases hq : q c <;> simp [hp, hq]
    · simp [hp, hpq c hp, ih]

theorem splitDollar_takeWhile (text : List Char) :
    splitDollar (text.takeWhile inCorner) =
      ((splitDollar text).1, (splitDollar text).2.takeWhile inCorner) := by
  cases text with
  | nil => rfl
  | cons c text =>
    by_cases hc : c = '$'
    · subst hc
      rfl
    · have hsplit : ∀ rest : List Char, splitDollar (c :: rest) = (false, c :: rest) := fun rest =>
        splitDollar_append false (by simpa using hc)
      rw [hsplit]
      cases hin : inCorner c
      · simp [hin, splitDollar]
      · simp only [List.takeWhile_cons_of_pos hin, hsplit]

/-- Whether a corner begins a text depends on the characters that corners are made of. -/
theorem CornerText.split?_takeWhile_eq_none_iff {text : List Char} :
    CornerText.split? (text.takeWhile inCorner) = none ↔ CornerText.split? text = none := by
  have hupper : ∀ c, CornerText.isColumnLetter c = true → inCorner c = true := fun c hc => by
    have : c.isUpper = true := hc
    simp [inCorner, this]
  have hdigit : ∀ c, isDecimalDigit c = true → inCorner c = true := fun c hc => by
    simp [inCorner, hc]
  simp only [CornerText.split?, splitDollar_takeWhile, takeWhile_takeWhile_of_imp hupper,
    dropWhile_takeWhile_of_imp hupper, takeWhile_takeWhile_of_imp hdigit]
  split <;> simp

theorem CornerText.split?_eq_none_congr {text text' : List Char}
    (h : text.takeWhile inCorner = text'.takeWhile inCorner)
    (hnone : CornerText.split? text = none) : CornerText.split? text' = none := by
  rw [← split?_takeWhile_eq_none_iff] at hnone ⊢
  rwa [← h]

/-! ## What an edit does not reach -/

/-- A character that joins the reference behind it, so that it does not stand for itself. -/
def JoinsReference (before : Option Char) : Prop := ∃ c ∈ before, (joinsWord c || c = '$') = true

theorem JoinsReference.of_inCorner {c : Char} (h : inCorner c = true) : JoinsReference (some c) := by
  refine ⟨c, rfl, ?_⟩
  simp only [inCorner, Bool.or_eq_true, decide_eq_true_eq] at h
  rcases h with (rfl | h) | h
  · decide +kernel
  · rw [joinsWord_of_isAsciiLetter (isAsciiLetter_iff.2 (Or.inl h))]
    rfl
  · rw [joinsWord_of_isDecimalDigit h]
    rfl

theorem JoinsReference.standsAlone {before : Option Char} (h : JoinsReference before)
    (after : Option Char) : SheetPress.standsAlone before after = false := by
  obtain ⟨c, hc, hjoins⟩ := h
  obtain rfl : before = some c := hc
  simp only [SheetPress.standsAlone, Option.any_some, hjoins]
  rfl

theorem ReferenceText.Spelled.joinsReference {source : ReferenceText} (h : source.Spelled) :
    JoinsReference source.chars.getLast? := by
  obtain ⟨d, hd, hdigit⟩ := h.getLast?_chars
  rw [hd]
  exact .of_inCorner (by simp [inCorner, hdigit])

section Front

variable (f : Reference → Option String) (opened : Option Char) {before : Option Char}
  {text : List Char}

theorem takeWhile_editedFrom_of_joins (h : JoinsReference before) :
    (editedFrom f opened before text).takeWhile inCorner = text.takeWhile inCorner ∧
      (editedFrom f opened before text).head? = text.head? := by
  induction hn : text.length using Nat.strong_induction_on generalizing text opened before with
  | _ n ih =>
    cases text with
    | nil => simp
    | cons c rest =>
      cases hsplit : ReferenceText.split? (c :: rest) with
      | none =>
        rw [editedFrom_char hsplit]
        refine ⟨?_, rfl⟩
        cases hin : inCorner c
        · rw [List.takeWhile_cons_of_neg (by simp [hin]), List.takeWhile_cons_of_neg (by simp [hin])]
        · rw [List.takeWhile_cons_of_pos hin, List.takeWhile_cons_of_pos hin,
            (ih rest.length (by simp [← hn]) _ (.of_inCorner hin) rfl).1]
      | some r =>
        obtain ⟨source, behind⟩ := r
        have hlen := ReferenceText.split?_length_lt hsplit
        obtain ⟨htake, -⟩ := ih behind.length (hn ▸ hlen) opened
          (ReferenceText.spelled_of_split? hsplit).1.joinsReference rfl
        rw [editedFrom_skip hsplit (Or.inr (h.standsAlone _)), ← ReferenceText.chars_split? hsplit]
        refine ⟨takeWhile_append_congr _ htake, ?_⟩
        rw [List.head?_append_of_ne_nil _ (ReferenceText.chars_ne_nil hsplit),
          List.head?_append_of_ne_nil _ (ReferenceText.chars_ne_nil hsplit)]

/-- An edit changes neither the next character nor what a search for a corner looks at, unless a
reference of its own begins there. -/
theorem takeWhile_editedFrom (h : JoinsReference before ∨ CornerText.split? text = none) :
    (editedFrom f opened before text).takeWhile inCorner = text.takeWhile inCorner ∧
      (editedFrom f opened before text).head? = text.head? := by
  rcases h with h | h
  · exact takeWhile_editedFrom_of_joins f opened h
  · cases text with
    | nil => simp
    | cons c rest =>
      rw [editedFrom_char (ReferenceText.split?_eq_none h)]
      refine ⟨?_, rfl⟩
      cases hin : inCorner c
      · rw [List.takeWhile_cons_of_neg (by simp [hin]), List.takeWhile_cons_of_neg (by simp [hin])]
      · rw [List.takeWhile_cons_of_pos hin, List.takeWhile_cons_of_pos hin,
          (takeWhile_editedFrom_of_joins f _ (.of_inCorner hin)).1]

/-- Text that does not continue a reference does not do so after an edit. -/
theorem ReferenceText.EndsBefore.editedFrom {source : ReferenceText} {behind : List Char}
    (h : source.EndsBefore behind) (hbefore : JoinsReference before) :
    source.EndsBefore (editedFrom f opened before behind) := by
  constructor
  · rw [(takeWhile_editedFrom f opened (.inl hbefore)).2]
    exact h.isDecimalDigit
  · intro hlast more hmore
    have hhead : (SheetPress.editedFrom f opened before behind).head? = behind.head? :=
      (takeWhile_editedFrom f opened (.inl hbefore)).2
    rw [hmore] at hhead
    obtain ⟨more', rfl⟩ : ∃ more', behind = ':' :: more' :=
      ⟨behind.tail, List.eq_cons_of_mem_head? hhead.symm⟩
    rw [editedFrom_plain_cons _ (by decide)] at hmore
    obtain ⟨-, rfl⟩ := List.cons.inj hmore
    have hnone := h.noCorner hlast more' rfl
    exact CornerText.split?_eq_none_congr (takeWhile_editedFrom f _ (.inr hnone)).1.symm hnone

end Front

/-! ## The pieces of an edited text -/

/-- The characters of a piece after an edit that cannot fail. -/
def Piece.edited (f : Reference → Option String) : Piece → List Char
  | .char c => [c]
  | .reference source ref => ((f ref).map String.toList).getD source.chars

theorem editedFrom_eq_flatMap (f : Reference → Option String) (opened before : Option Char)
    (text : List Char) :
    editedFrom f opened before text = (piecesFrom opened before text).flatMap (Piece.edited f) := by
  unfold editedFrom
  congr 1
  funext piece
  cases piece with
  | char c => rfl
  | reference source ref =>
    simp only [Piece.edited]
    cases f ref <;> rfl

/-- The spelling of a reference. -/
def Reference.spelling (r : Reference) : ReferenceText := ⟨r.first.corner, r.last.map CellRef.corner⟩

theorem Reference.toList_text (r : Reference) : r.text.toList = r.spelling.chars := by
  obtain ⟨first, last, qualified⟩ := r
  cases last with
  | none => exact first.toList_text
  | some last =>
    show (first.text ++ ":" ++ last.text).toList = _
    rw [String.toList_append, String.toList_append, first.toList_text, last.toList_text]
    exact List.append_assoc ..

theorem Reference.Written.spelled {r : Reference} (h : r.Written) : r.spelling.Spelled := by
  refine ⟨h.1.proper.spelled, fun last hlast => ?_⟩
  obtain ⟨a, ha, rfl⟩ := Option.map_eq_some_iff.1 hlast
  exact (h.2 a ha).proper.spelled

/-- A piece with its reference replaced by the one that `g` gives for it, if any. -/
def Piece.respell (g : Reference → Option Reference) : Piece → Piece
  | .char c => .char c
  | .reference source ref =>
    match g ref with
    | some r => .reference r.spelling r
    | none => .reference source ref

/-- A reference can stand in the place of another one: it is read back from its own text, as a
reference of the same sheet, and has a second corner if the other one has. -/
structure Replaces (source : ReferenceText) (ref r : Reference) : Prop where
  spelled : r.spelling.Spelled
  reference? : r.spelling.reference? ref.qualified = some r
  last : r.spelling.last = none → source.last = none

/-- A reference with columns and with rows that fit an index is read back from its own text. -/
theorem Reference.replaces {source : ReferenceText} {ref r : Reference}
    (hspelled : r.spelling.Spelled)
    (hrows : ∀ corner ∈ r.first :: r.last.toList, corner.row < indexLimit)
    (hqualified : r.qualified = ref.qualified) (hlast : r.last = none → source.last = none) :
    Replaces source ref r := by
  obtain ⟨first, last, qualified⟩ := r
  obtain rfl : qualified = ref.qualified := hqualified
  have hfirst := CellRef.ref?_corner (hrows first (List.mem_cons_self ..))
  refine ⟨hspelled, ?_, fun h => hlast (Option.map_eq_none_iff.1 h)⟩
  cases last with
  | none => simp [spelling, ReferenceText.reference?, hfirst]
  | some last =>
    have hlast := CellRef.ref?_corner (hrows last (by simp))
    simp [spelling, ReferenceText.reference?, hfirst, hlast]

theorem Replaces.endsBefore {source : ReferenceText} {ref r : Reference} {behind : List Char}
    (h : Replaces source ref r) (hends : source.EndsBefore behind) :
    r.spelling.EndsBefore behind :=
  ⟨hends.isDecimalDigit, fun hlast => hends.noCorner (h.last hlast)⟩

theorem ReferenceText.pieces_eq (source : ReferenceText) (opened before after : Option Char) :
    source.pieces opened before after = source.chars.map .char ∨
      ∃ ref, source.reference? (before == some '!') = some ref ∧
        (opened.isNone && standsAlone before after) = true ∧
        source.pieces opened before after = [.reference source ref] := by
  unfold pieces
  split
  · next halone =>
    split
    · next ref href => exact .inr ⟨ref, href, halone, rfl⟩
    · exact .inl rfl
  · exact .inl rfl

theorem ReferenceText.qualified_of_reference? {source : ReferenceText} {qualified : Bool}
    {ref : Reference} (h : source.reference? qualified = some ref) : ref.qualified = qualified := by
  obtain ⟨first, -, rfl⟩ := Option.map_eq_some_iff.1 h
  rfl

/-- Every reference of a text was spelled there. -/
theorem of_mem_piecesFrom {opened before : Option Char} {text : List Char} {source : ReferenceText}
    {ref : Reference} (h : .reference source ref ∈ piecesFrom opened before text) :
    source.Spelled ∧ source.reference? ref.qualified = some ref := by
  fun_induction piecesFrom opened before text with
  | case1 => cases h
  | case2 opened before c rest found behind hsplit _ ih =>
    rcases List.mem_append.1 h with h | h
    · rcases found.pieces_eq opened before behind.head? with hpieces | ⟨ref', href, -, hpieces⟩
      · rw [hpieces] at h
        simp at h
      · rw [hpieces, List.mem_singleton] at h
        cases h
        refine ⟨(ReferenceText.spelled_of_split? hsplit).1, ?_⟩
        rwa [ReferenceText.qualified_of_reference? href]
    · exact ih h
  | case3 opened before c rest hsplit ih =>
    rcases List.mem_cons.1 h with h | h
    · cases h
    · exact ih h

/-- Two characters that tell a reference behind them the same: whether it stands for itself and
whether the name of a sheet is in front of it. -/
def SameFront (before before' : Option Char) : Prop :=
  standsAlone before = standsAlone before' ∧ (before == some '!') = (before' == some '!')

theorem SameFront.pieces {before before' : Option Char} (h : SameFront before before')
    (source : ReferenceText) (opened after : Option Char) :
    source.pieces opened before after = source.pieces opened before' after := by
  unfold ReferenceText.pieces
  rw [h.1, h.2]

theorem sameFront_of_spelled {source source' : ReferenceText} (h : source.Spelled)
    (h' : source'.Spelled) : SameFront source.chars.getLast? source'.chars.getLast? := by
  refine ⟨?_, ?_⟩
  · funext after
    rw [h.joinsReference.standsAlone, h'.joinsReference.standsAlone]
  · have hmark : ∀ d, isDecimalDigit d = true → (some d == some '!') = false := by
      intro d hd
      rw [beq_eq_false_iff_ne]
      rintro heq
      obtain rfl := Option.some.inj heq
      exact absurd hd (by decide +kernel)
    obtain ⟨d, hd, hdigit⟩ := h.getLast?_chars
    obtain ⟨d', hd', hdigit'⟩ := h'.getLast?_chars
    rw [hd, hd', hmark d hdigit, hmark d' hdigit']

/-- A reference is found in front of a text that does not continue it. -/
theorem piecesFrom_spelled {source : ReferenceText} (h : source.Spelled) {behind : List Char}
    (hends : source.EndsBefore behind) (opened before : Option Char) :
    piecesFrom opened before (source.chars ++ behind) =
      source.pieces opened before behind.head? ++
        piecesFrom opened source.chars.getLast? behind := by
  have hsplit := ReferenceText.split?_eq h hends
  obtain ⟨c, rest, hcons⟩ := List.exists_cons_of_ne_nil (ReferenceText.chars_ne_nil hsplit)
  rw [hcons, List.cons_append] at hsplit ⊢
  rw [piecesFrom_split hsplit, hcons]

/-! ### References that are lost -/

/-- No corner begins behind a reference that stands for itself. -/
theorem CornerText.split?_eq_none_of_standsAlone {before : Option Char} {behind : List Char}
    (h : standsAlone before behind.head? = true) : CornerText.split? behind = none := by
  cases behind with
  | nil => rfl
  | cons c rest =>
    refine CornerText.split?_eq_none_of_head rest ?_
    rw [← Bool.not_eq_true]
    intro hbegins
    have hin : inCorner c = true := by
      rw [beginsCorner, Bool.or_eq_true] at hbegins
      simpa only [inCorner, Bool.or_eq_true] using Or.inl hbegins
    obtain ⟨d, hd, hjoins⟩ := JoinsReference.of_inCorner hin
    obtain rfl : c = d := Option.some.inj hd
    simp only [standsAlone, List.head?_cons, Option.any_some, Bool.and_eq_true, Bool.not_eq_true',
      Bool.or_eq_false_iff, decide_eq_false_iff_not] at h
    rw [Bool.or_eq_true, decide_eq_true_eq] at hjoins
    rcases hjoins with hjoins | hjoins
    · exact Bool.false_ne_true (h.2.1.1.1.symm.trans hjoins)
    · exact h.2.1.2 hjoins

/-- No reference is found in the error that is written for a lost one. -/
theorem piecesFrom_referenceError (before : Option Char) (rest : List Char) :
    piecesFrom none before (referenceErrorText.toList ++ rest) =
      referenceErrorText.toList.map .char ++ piecesFrom none (some '!') rest := by
  have hname : ∀ c ∈ ['R', 'E', 'F'], continuesName c = true := forall_mem_of_all (by decide)
  show piecesFrom none before ('#' :: (['R', 'E', 'F'] ++ '!' :: rest)) = _
  rw [piecesFrom_plain_cons _ (by decide), show openQuote none '#' = none by decide,
    piecesFrom_name (Or.inr rfl) rest hname]
  rfl

/-- What an edit writes in the place of a reference: another one, or an error where it is lost. -/
inductive Replacement where
  | reference (r : Reference)
  | lost

namespace Replacement

/-- A replacement as written. -/
def text : Replacement → String
  | reference r => r.text
  | lost => referenceErrorText

/-- The pieces of a replacement. -/
def pieces : Replacement → List Piece
  | reference r => [.reference r.spelling r]
  | lost => referenceErrorText.toList.map .char

end Replacement

/-- A piece with its reference replaced by what `g` gives for it, if anything. -/
def Piece.replace (g : Reference → Option Replacement) : Piece → List Piece
  | .char c => [.char c]
  | .reference source ref => ((g ref).map Replacement.pieces).getD [.reference source ref]

/-- The pieces of an edited text are those of the text with their references replaced. -/
theorem piecesFrom_editedFrom {g : Reference → Option Replacement}
    {opened before before' : Option Char} {text : List Char}
    (hbefore : SameFront before before' ∨ CornerText.split? text = none)
    (hg : ∀ source ref r, .reference source ref ∈ piecesFrom opened before text →
      g ref = some (.reference r) → Replaces source ref r) :
    piecesFrom opened before' (editedFrom (fun r => (g r).map Replacement.text) opened before text) =
      (piecesFrom opened before text).flatMap (Piece.replace g) := by
  induction hn : text.length using Nat.strong_induction_on generalizing text opened before before' with
  | _ n ih =>
    cases text with
    | nil => simp
    | cons c rest =>
      cases hsplit : ReferenceText.split? (c :: rest) with
      | none =>
        have hnone := ReferenceText.split?_eq_none_iff.1 hsplit
        have hnone' := CornerText.split?_eq_none_congr
          (@takeWhile_editedFrom (fun r => (g r).map Replacement.text) opened before _
            (.inr hnone)).1.symm hnone
        rw [editedFrom_char hsplit] at hnone' ⊢
        rw [piecesFrom_char hsplit] at hg ⊢
        rw [piecesFrom_char (ReferenceText.split?_eq_none_iff.2 hnone'), List.flatMap_cons,
          ih rest.length (by simp [← hn]) (.inl ⟨rfl, rfl⟩)
            (fun source ref r hmem => hg source ref r (List.mem_cons_of_mem _ hmem)) rfl]
        rfl
      | some r =>
        obtain ⟨source, behind⟩ := r
        obtain ⟨hspelled, hends⟩ := ReferenceText.spelled_of_split? hsplit
        have hlen := ReferenceText.split?_length_lt hsplit
        have hsame : SameFront before before' := hbefore.resolve_right fun hnone => by
          rw [ReferenceText.split?_eq_none hnone] at hsplit
          cases hsplit
        rw [piecesFrom_split hsplit] at hg
        -- the text behind, whatever stands in front of it afterwards
        have hbehind : ∀ last, SameFront source.chars.getLast? last ∨
            CornerText.split? behind = none → _ := fun last hlast =>
          ih behind.length (hn ▸ hlen) hlast
            (fun source ref r hmem => hg source ref r (List.mem_append_right _ hmem)) rfl
        have hends' := hends.editedFrom (fun r => (g r).map Replacement.text) opened
          hspelled.joinsReference
        have hhead := (@takeWhile_editedFrom (fun r => (g r).map Replacement.text) opened _ behind
          (.inl hspelled.joinsReference)).2
        -- a reference in this place is found again, and so are the pieces behind it
        have hfound : ∀ source' : ReferenceText, source'.Spelled →
            source'.EndsBefore (editedFrom (fun r => (g r).map Replacement.text) opened
              source.chars.getLast? behind) →
            piecesFrom opened before' (source'.chars ++ editedFrom
              (fun r => (g r).map Replacement.text) opened source.chars.getLast? behind) =
              source'.pieces opened before behind.head? ++
                (piecesFrom opened source.chars.getLast? behind).flatMap (Piece.replace g) := by
          intro source' hspelled' hends''
          rw [piecesFrom_spelled hspelled' hends'', hhead, hsame.pieces,
            hbehind _ (.inl (sameFront_of_spelled hspelled hspelled'))]
        rw [editedFrom_split hsplit, piecesFrom_split hsplit, List.flatMap_append]
        rcases source.pieces_eq opened before behind.head? with hpieces | ⟨ref, href, halone, hpieces⟩
        · have hchars : (source.chars.map Piece.char).flatMap (Piece.replace g) =
              source.chars.map Piece.char := by
            rw [List.flatMap_map, List.map_eq_flatMap]
            rfl
          rw [hpieces, List.flatMap_map, hchars, ← hpieces]
          simpa using hfound source hspelled hends'
        · rw [hpieces] at hg ⊢
          rw [List.flatMap_singleton, List.flatMap_singleton]
          cases hgr : g ref with
          | none =>
            have := hfound source hspelled hends'
            rw [hpieces] at this
            simpa [Piece.replace, hgr] using this
          | some replacement =>
            cases replacement with
            | reference r =>
              have hreplaces := hg source ref r (by simp) hgr
              have := hfound r.spelling hreplaces.spelled (hreplaces.endsBefore hends')
              have hread := hreplaces.reference?
              rw [ReferenceText.qualified_of_reference? href] at hread
              rw [ReferenceText.pieces, if_pos halone, hread] at this
              simpa [Piece.replace, hgr, Replacement.text, Replacement.pieces, r.toList_text] using this
            | lost =>
              rw [Bool.and_eq_true, Option.isNone_iff_eq_none] at halone
              obtain ⟨rfl, halone⟩ := halone
              have hnone := CornerText.split?_eq_none_of_standsAlone halone
              simp only [Piece.replace, hgr, Option.map_some, Option.getD_some, Replacement.text,
                Replacement.pieces]
              rw [piecesFrom_referenceError, hbehind (some '!') (.inr hnone)]

theorem mapReferences_eq_flatMap (f : Reference → Option String) (formula : String) :
    mapReferences f formula =
      String.ofList ((piecesOf formula.toList).flatMap (Piece.edited f)) :=
  (mapReferences_eq_editedFrom f formula).trans
    (congrArg String.ofList (editedFrom_eq_flatMap f none none formula.toList))

/-- The pieces of an edited text are the pieces of the text with their references replaced. -/
theorem piecesOf_mapReferences_replace {g : Reference → Option Replacement} {formula : String}
    (hg : ∀ source ref r, .reference source ref ∈ piecesOf formula.toList →
      g ref = some (.reference r) → Replaces source ref r) :
    piecesOf (mapReferences (fun r => (g r).map Replacement.text) formula).toList =
      (piecesOf formula.toList).flatMap (Piece.replace g) := by
  rw [mapReferences_eq_editedFrom, String.toList_ofList]
  exact piecesFrom_editedFrom (.inl ⟨rfl, rfl⟩) hg

/-- An edit that loses no reference changes every piece into one. -/
theorem piecesOf_mapReferences {g : Reference → Option Reference} {formula : String}
    (hg : ∀ source ref r, .reference source ref ∈ piecesOf formula.toList → g ref = some r →
      Replaces source ref r) :
    piecesOf (mapReferences (fun r => (g r).map Reference.text) formula).toList =
      (piecesOf formula.toList).map (Piece.respell g) := by
  have hreplace : ∀ piece, Piece.replace (fun r => (g r).map .reference) piece =
      [piece.respell g] := by
    rintro (c | ⟨source, ref⟩)
    · rfl
    · rw [Piece.replace, Piece.respell]
      cases g ref <;> rfl
  have htext : (fun r => (g r).map Reference.text) =
      fun r => ((g r).map Replacement.reference).map Replacement.text := by
    funext r
    cases g r <;> rfl
  rw [htext, piecesOf_mapReferences_replace, List.flatMap_congr fun piece _ => hreplace piece]
  · exact List.flatMap_pure_eq_map ..
  · intro source ref r hmem hr
    obtain ⟨r', hr', heq⟩ := Option.map_eq_some_iff.1 hr
    obtain rfl := Replacement.reference.inj heq
    exact hg source ref r' hmem hr'

end SheetPress
