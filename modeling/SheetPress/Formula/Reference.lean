import SheetPress.Formula.Expr

/-!
# References in the text of a formula

A formula that is edited keeps all of its text but the references that move. `piecesOf` cuts a text
into references and single characters between them, without reading it as an expression: the
formula need not be well formed. Texts in quotes hold no references, nor does a name such as `LOG10`
in front of a parenthesis. Written one after another, the pieces give back the text
(`chars_piecesOf`).
-/

namespace SheetPress

/-- One corner of a reference in its spelling, where digits of any script may stand for the row. -/
structure CornerText where
  columnFixed : Bool
  letters : List Char
  rowFixed : Bool
  digits : List Char
  deriving DecidableEq, Repr

namespace CornerText

/-- The characters of a corner. -/
def chars (c : CornerText) : List Char :=
  dollar c.columnFixed ++ c.letters ++ dollar c.rowFixed ++ c.digits

/-- The cell that a corner names; its row must be a number in ASCII digits that fits an index. -/
def ref? (c : CornerText) : Option CellRef :=
  (readNat? indexLimit c.digits).map fun row =>
    ⟨String.ofList c.letters, row, c.columnFixed, c.rowFixed⟩

/-- The letters `A` to `Z`. -/
def isColumnLetter (c : Char) : Bool := c.isUpper

/-- The longest corner at the front of a text, and the text behind it. -/
def split? (text : List Char) : Option (CornerText × List Char) :=
  let fromLetters := (splitDollar text).2
  let afterLetters := fromLetters.dropWhile isColumnLetter
  let fromDigits := (splitDollar afterLetters).2
  let corner : CornerText :=
    { columnFixed := (splitDollar text).1
      letters := fromLetters.takeWhile isColumnLetter
      rowFixed := (splitDollar afterLetters).1
      digits := fromDigits.takeWhile isDecimalDigit }
  if corner.letters = [] ∨ corner.digits = [] then none
  else some (corner, fromDigits.dropWhile isDecimalDigit)

end CornerText

/-- A reference in its spelling: one corner, or two with a colon between them. -/
structure ReferenceText where
  first : CornerText
  last : Option CornerText
  deriving DecidableEq, Repr

/-- A reference as formulas are edited: its corners, and whether a sheet name stands before it. -/
structure Reference where
  first : CellRef
  last : Option CellRef
  qualified : Bool
  deriving DecidableEq, Repr

/-- A reference as written. -/
def Reference.text (r : Reference) : String :=
  match r.last with
  | some last => r.first.text ++ ":" ++ last.text
  | none => r.first.text

namespace ReferenceText

/-- The characters of a reference. -/
def chars (r : ReferenceText) : List Char :=
  match r.last with
  | some last => r.first.chars ++ ':' :: last.chars
  | none => r.first.chars

/-- The longest reference at the front of a text, and the text behind it. -/
def split? (text : List Char) : Option (ReferenceText × List Char) :=
  (CornerText.split? text).map fun (first, behind) =>
    match behind with
    | ':' :: more =>
      match CornerText.split? more with
      | some (last, rest) => (⟨first, some last⟩, rest)
      | none => (⟨first, none⟩, behind)
    | _ => (⟨first, none⟩, behind)

/-- The reference that a spelling stands for. A second corner that names no cell counts for
nothing. -/
def reference? (r : ReferenceText) (qualified : Bool) : Option Reference :=
  r.first.ref?.map fun first => ⟨first, r.last.bind CornerText.ref?, qualified⟩

end ReferenceText

/-! ## Nothing is lost when a reference is split off -/

theorem dollar_splitDollar (text : List Char) :
    dollar (splitDollar text).1 ++ (splitDollar text).2 = text := by
  fun_cases splitDollar text <;> rfl

theorem CornerText.chars_split? {text behind : List Char} {c : CornerText}
    (h : CornerText.split? text = some (c, behind)) : c.chars ++ behind = text := by
  simp only [CornerText.split?] at h
  split at h
  · cases h
  · simp only [Option.some.injEq, Prod.mk.injEq] at h
    obtain ⟨rfl, rfl⟩ := h
    simp only [CornerText.chars, List.append_assoc, List.takeWhile_append_dropWhile,
      dollar_splitDollar]

theorem CornerText.chars_ne_nil {text behind : List Char} {c : CornerText}
    (h : CornerText.split? text = some (c, behind)) : c.chars ≠ [] := by
  simp only [CornerText.split?] at h
  split at h
  · cases h
  · rename_i hne
    simp only [Option.some.injEq, Prod.mk.injEq] at h
    obtain ⟨rfl, rfl⟩ := h
    simp only [CornerText.chars, ne_eq, List.append_eq_nil_iff, not_and]
    exact fun _ hd => absurd (Or.inr hd) hne

theorem ReferenceText.chars_split? {text behind : List Char} {r : ReferenceText}
    (h : ReferenceText.split? text = some (r, behind)) : r.chars ++ behind = text := by
  simp only [ReferenceText.split?, Option.map_eq_some_iff, Prod.exists] at h
  obtain ⟨first, rest, hfirst, h⟩ := h
  have happ := CornerText.chars_split? hfirst
  split at h
  · split at h
    · rename_i hlast
      have happ' := CornerText.chars_split? hlast
      simp only [Prod.mk.injEq] at h
      obtain ⟨rfl, rfl⟩ := h
      simp [ReferenceText.chars, ← happ, ← happ']
    · simp only [Prod.mk.injEq] at h
      obtain ⟨rfl, rfl⟩ := h
      simpa [ReferenceText.chars] using happ
  · simp only [Prod.mk.injEq] at h
    obtain ⟨rfl, rfl⟩ := h
    simpa [ReferenceText.chars] using happ

theorem ReferenceText.chars_ne_nil {text behind : List Char} {r : ReferenceText}
    (h : ReferenceText.split? text = some (r, behind)) : r.chars ≠ [] := by
  simp only [ReferenceText.split?, Option.map_eq_some_iff, Prod.exists] at h
  obtain ⟨first, rest, hfirst, h⟩ := h
  have hne := CornerText.chars_ne_nil hfirst
  split at h
  · split at h <;> simp only [Prod.mk.injEq] at h <;> obtain ⟨rfl, rfl⟩ := h <;>
      simp [ReferenceText.chars, hne]
  · simp only [Prod.mk.injEq] at h
    obtain ⟨rfl, rfl⟩ := h
    simpa [ReferenceText.chars] using hne

theorem ReferenceText.split?_length_lt {text behind : List Char} {r : ReferenceText}
    (h : ReferenceText.split? text = some (r, behind)) : behind.length < text.length := by
  have happ := congrArg List.length (ReferenceText.chars_split? h)
  have hpos := List.length_pos_iff.mpr (ReferenceText.chars_ne_nil h)
  simp only [List.length_append] at happ
  omega

/-! ## Pieces -/

/-- A piece of a formula: a reference with its spelling, or a character that belongs to none. -/
inductive Piece where
  | char (c : Char)
  | reference (source : ReferenceText) (ref : Reference)
  deriving DecidableEq, Repr

/-- The characters of a piece. -/
def Piece.chars : Piece → List Char
  | char c => [c]
  | reference source _ => source.chars

/-- Characters that join what stands beside them into one word. -/
def joinsWord (c : Char) : Bool := isAlphanumeric c || c = '_' || c = '.'

/-- Whether a reference stands for itself between two characters and is not part of a name, of a
function call or of the name of a sheet. -/
def standsAlone (before after : Option Char) : Bool :=
  !before.any (fun c => joinsWord c || c = '$') &&
    !after.any (fun c => joinsWord c || c = '(' || c = '$' || c = '!')

/-- The quote that is open behind a character, given the one that is open in front of it. -/
def openQuote (opened : Option Char) (c : Char) : Option Char :=
  match opened with
  | some quote => if c = quote then none else some quote
  | none => if c = '"' ∨ c = '\'' then some c else none

/-- The pieces that a spelling gives: one reference where it stands for itself outside of quotes and
names a cell, else its characters. -/
def ReferenceText.pieces (source : ReferenceText) (opened before after : Option Char) :
    List Piece :=
  if opened.isNone && standsAlone before after then
    match source.reference? (before == some '!') with
    | some ref => [.reference source ref]
    | none => source.chars.map .char
  else source.chars.map .char

/-- The pieces of a text, given the quote that is open and the character in front of it. -/
def piecesFrom (opened before : Option Char) : List Char → List Piece
  | [] => []
  | c :: rest =>
    match h : ReferenceText.split? (c :: rest) with
    | some (source, behind) =>
      have : behind.length < rest.length + 1 := ReferenceText.split?_length_lt h
      source.pieces opened before behind.head? ++
        piecesFrom opened source.chars.getLast? behind
    | none => .char c :: piecesFrom (openQuote opened c) (some c) rest
termination_by text => text.length

/-- The pieces of a text. -/
def piecesOf (text : List Char) : List Piece := piecesFrom none none text

theorem chars_pieces (source : ReferenceText) (opened before after : Option Char) :
    (source.pieces opened before after).flatMap Piece.chars = source.chars := by
  have hplain : (source.chars.map Piece.char).flatMap Piece.chars = source.chars := by
    simp [List.flatMap_map, Piece.chars]
  unfold ReferenceText.pieces
  split
  · split
    · simp [Piece.chars]
    · exact hplain
  · exact hplain

theorem chars_piecesFrom (opened before : Option Char) (text : List Char) :
    (piecesFrom opened before text).flatMap Piece.chars = text := by
  fun_induction piecesFrom opened before text with
  | case1 => rfl
  | case2 opened before c rest source behind h _ ih =>
    rw [List.flatMap_append, chars_pieces, ih, ReferenceText.chars_split? h]
  | case3 opened before c rest h ih => simp [Piece.chars, ih]

/-- The pieces of a text are the whole text. -/
theorem chars_piecesOf (text : List Char) : (piecesOf text).flatMap Piece.chars = text :=
  chars_piecesFrom none none text

/-- The references of a formula, in order. -/
def referencesOf (formula : String) : List Reference :=
  (piecesOf formula.toList).filterMap fun
    | .reference _ ref => some ref
    | .char _ => none

/-! ## Replacing references -/

/-- The characters of a piece after an edit, which gives a reference a new text or keeps it. The
edit may fail or remember something for the next reference. -/
def Piece.edit [Monad m] (f : Reference → m (Option String)) : Piece → m (List Char)
  | char c => pure [c]
  | reference source ref =>
    (fun
      | some text => text.toList
      | none => source.chars) <$> f ref

/-- Edits every reference of a formula, one after another; the first failure counts. -/
def editReferences [Monad m] (f : Reference → m (Option String)) (formula : String) : m String :=
  (fun parts => String.ofList parts.flatten) <$> (piecesOf formula.toList).mapM (Piece.edit f)

/-- Edits every reference of a formula with an edit that cannot fail. -/
def mapReferences (f : Reference → Option String) (formula : String) : String :=
  String.ofList ((piecesOf formula.toList).flatMap fun
    | .char c => [c]
    | .reference source ref =>
      match f ref with
      | some text => text.toList
      | none => source.chars)

end SheetPress
