import SheetPress.Formula.Token

/-!
# Cutting formulas into tokens

`tokenize` cuts a formula into tokens. Every text has tokens: what begins none becomes an illegal
token, and a quoted text without its closing quote reaches to the end of the formula.
-/

namespace SheetPress

/-- Characters that names begin with. -/
def startsName (c : Char) : Bool := isAsciiLetter c || c = '_'

/-- Characters that names continue with: letters, digits, `_`, the point of names such as `STDEV.S`,
and the dollar signs of references. -/
def continuesName (c : Char) : Bool := startsName c || isAsciiDigit c || c = '.' || c = '$'

/-- The text up to the closing quote, where a doubled quote stands for one, and what lies behind. -/
def quotedBody (quote : Char) : List Char → List Char × List Char
  | [] => ([], [])
  | [c] => if c = quote then ([], []) else ([c], [])
  | c :: d :: rest =>
    if c = quote then
      if d = quote then
        let (body, behind) := quotedBody quote rest
        (quote :: body, behind)
      else ([], d :: rest)
    else
      let (body, behind) := quotedBody quote (d :: rest)
      (c :: body, behind)

/-- Splits a sign off the front of a text. -/
def signSpan : List Char → List Char × List Char
  | '+' :: rest => (['+'], rest)
  | '-' :: rest => (['-'], rest)
  | rest => ([], rest)

/-- Splits the exponent off the front of a text: a mark, perhaps a sign, and digits. -/
def exponentSpan : List Char → List Char × List Char
  | mark :: rest =>
    let (sign, digits) := signSpan rest
    let span := digits.takeWhile isAsciiDigit
    if (mark = 'e' ∨ mark = 'E') ∧ span ≠ [] then
      (mark :: sign ++ span, digits.dropWhile isAsciiDigit)
    else ([], mark :: rest)
  | [] => ([], [])

/-- Splits a fraction off the front of a text: a point and the digits behind it. -/
def fractionSpan : List Char → List Char × List Char
  | '.' :: rest => ('.' :: rest.takeWhile isAsciiDigit, rest.dropWhile isAsciiDigit)
  | rest => ([], rest)

/-- Splits a numeral off the front of a text: digits with at most one point, then an exponent. -/
def numeralSpan (text : List Char) : List Char × List Char :=
  let (fraction, rest) := fractionSpan (text.dropWhile isAsciiDigit)
  let (exponent, rest) := exponentSpan rest
  (text.takeWhile isAsciiDigit ++ fraction ++ exponent, rest)

/-- The token of a name; the words for truth values are not names. -/
def nameToken (letters : List Char) : Token :=
  match String.ofList (letters.map Char.toUpper) with
  | "TRUE" => .boolean true
  | "FALSE" => .boolean false
  | name => .name name

/-- A symbol at the front of a text, the longest one that fits. -/
def symbolSpan? (c : Char) (rest : List Char) : Option (Symbol × List Char) :=
  match c with
  | '+' => some (.plus, rest)
  | '-' => some (.minus, rest)
  | '*' => some (.asterisk, rest)
  | '/' => some (.slash, rest)
  | '^' => some (.caret, rest)
  | '&' => some (.ampersand, rest)
  | '%' => some (.percent, rest)
  | '(' => some (.openParen, rest)
  | ')' => some (.closeParen, rest)
  | ',' => some (.comma, rest)
  | ':' => some (.colon, rest)
  | '!' => some (.exclamation, rest)
  | '=' => some (.equals, rest)
  | '<' =>
    match rest with
    | '=' :: more => some (.lessEqual, more)
    | '>' :: more => some (.notEqual, more)
    | _ => some (.less, rest)
  | '>' =>
    match rest with
    | '=' :: more => some (.greaterEqual, more)
    | _ => some (.greater, rest)
  | _ => none

/-- The token that begins with `c`, and the text behind it. -/
def nextToken (c : Char) (rest : List Char) : Token × List Char :=
  match symbolSpan? c rest with
  | some (symbol, behind) => (.symbol symbol, behind)
  | none =>
    if c = '"' then
      let (body, behind) := quotedBody '"' rest
      (.text (String.ofList body), behind)
    else if c = '\'' then
      let (body, behind) := quotedBody '\'' rest
      (.quotedName (String.ofList body), behind)
    else if isAsciiDigit c || c = '.' then
      let (numeral, behind) := numeralSpan (c :: rest)
      match readNumber? numeral with
      | some x => (.number x, behind)
      | none => (.illegal c, behind)
    else if startsName c || (c = '$' && (rest.head?.any startsName)) then
      (nameToken (c :: rest.takeWhile continuesName), rest.dropWhile continuesName)
    else (.illegal c, rest)

/-! ## Every token takes at least one character -/

theorem quotedBody_length_le (quote : Char) (text : List Char) :
    (quotedBody quote text).2.length ≤ text.length := by
  fun_induction quotedBody quote text <;> simp_all <;> omega

theorem signSpan_append (text : List Char) : (signSpan text).1 ++ (signSpan text).2 = text := by
  fun_cases signSpan text <;> rfl

theorem exponentSpan_append (text : List Char) :
    (exponentSpan text).1 ++ (exponentSpan text).2 = text := by
  fun_cases exponentSpan text with
  | case1 mark rest sign digits hsign span h =>
    have happ := signSpan_append rest
    rw [hsign] at happ
    simp [← happ, span, List.takeWhile_append_dropWhile]
  | case2 => rfl
  | case3 => rfl

theorem fractionSpan_append (text : List Char) :
    (fractionSpan text).1 ++ (fractionSpan text).2 = text := by
  fun_cases fractionSpan text <;> simp [List.takeWhile_append_dropWhile]

/-- Nothing is lost when a numeral is split off. -/
theorem numeralSpan_append (text : List Char) :
    (numeralSpan text).1 ++ (numeralSpan text).2 = text := by
  simp only [numeralSpan, List.append_assoc, exponentSpan_append, fractionSpan_append,
    List.takeWhile_append_dropWhile]

theorem symbolSpan?_length_le {c : Char} {rest behind : List Char} {symbol : Symbol}
    (h : symbolSpan? c rest = some (symbol, behind)) : behind.length ≤ rest.length := by
  unfold symbolSpan? at h
  split at h <;> first
    | (obtain ⟨-, rfl⟩ := h; exact Nat.le_refl _)
    | (split at h <;> (obtain ⟨-, rfl⟩ := h; simp))
    | cases h

theorem numeralSpan_length_le {c : Char} {rest : List Char}
    (h : (isAsciiDigit c || c = '.') = true) :
    (numeralSpan (c :: rest)).2.length ≤ rest.length := by
  have happ := congrArg List.length (numeralSpan_append (c :: rest))
  have hpos : 0 < (numeralSpan (c :: rest)).1.length := by
    unfold numeralSpan
    by_cases hd : isAsciiDigit c = true
    · simp [hd]
    · have : c = '.' := by simpa [hd] using h
      subst this
      simp [hd, fractionSpan]
  simp only [List.length_append, List.length_cons] at happ
  omega

theorem nextToken_length_le (c : Char) (rest : List Char) :
    (nextToken c rest).2.length ≤ rest.length := by
  unfold nextToken
  split
  · exact symbolSpan?_length_le ‹_›
  · split
    · exact quotedBody_length_le _ _
    · split
      · exact quotedBody_length_le _ _
      · split
        · rename_i h
          dsimp only
          split <;> exact numeralSpan_length_le h
        · split
          · exact length_dropWhile_le _ _
          · exact Nat.le_refl _

/-- The tokens of a formula, in order. -/
def tokensOf (text : List Char) : List Token :=
  match text.dropWhile isBlank, length_dropWhile_le isBlank text with
  | [], _ => []
  | c :: rest, h =>
    have : (nextToken c rest).2.length < text.length := by
      have := nextToken_length_le c rest
      simp at h
      omega
    (nextToken c rest).1 :: tokensOf (nextToken c rest).2
termination_by text.length

/-- The tokens of a formula given as a string. -/
def tokenize (formula : String) : List Token := tokensOf formula.toList

end SheetPress
