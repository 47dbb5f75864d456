import SheetPress.Formula.Expr
import SheetPress.Formula.Lexer

/-!
# Reading formulas

`parseTokens` reads a list of tokens as an expression, `parseFormula` a text. A formula may begin
with `=`. From loosest to tightest, operators are comparisons, `&`, sums, products, the signs in
front of an operand, powers, and the percent signs behind an operand. The operators of the first four
levels group to the left; a power takes a signed operand on its right, so it groups to the right.

Every step of the parser returns what is left of the tokens with the proof that it is shorter, which
is why the parser ends on every input.
-/

namespace SheetPress

/-- Why a list of tokens is no formula. -/
inductive ParseError where
  | empty
  | trailing (found : Token)
  | expected (symbol : Symbol) (found : Option Token)
  | unexpectedEnd
  | illegal (c : Char)
  | unexpected (found : Token)
  /-- A number after a sheet name begins no range of rows. -/
  | loneSheetRow
  | noReference (found : Option Token)
  | noRangeEnd
  | noRowEnd
  | badRows
  | missingColumn (name : String)
  | missingRow (name : String)
  | badReference (name : String)
  | rowZero (name : String)
  deriving DecidableEq, Repr

/-- What an error says. -/
def ParseError.message : ParseError → String
  | empty => "Empty expression"
  | trailing found => "Unexpected token after expression: " ++ found.display
  | expected symbol found => "Expected " ++ symbol.text ++ ", found " ++ displayToken? found
  | unexpectedEnd => "Unexpected end of expression"
  | illegal c => "Illegal character: " ++ String.singleton c
  | unexpected found => "Unexpected token: " ++ found.display
  | loneSheetRow => "Expected ':' after row number in sheet reference"
  | noReference found => "Expected cell reference after '!', found " ++ displayToken? found
  | noRangeEnd => "Expected identifier after ':' in range/column reference"
  | noRowEnd => "Expected number after ':' in row reference"
  | badRows => "Row numbers must be whole numbers >= 1"
  | missingColumn name => "Cell reference missing column: " ++ name
  | missingRow name => "Cell reference missing row: " ++ name
  | badReference name => "Invalid cell reference: " ++ name
  | rowZero name => "Row number must be >= 1: " ++ name

/-! ## Names that are references -/

/-- The column that a name such as `A` or `$AB` stands for. -/
def columnRef? (name : String) : Option ColumnRef :=
  let (fixed, letters) := splitDollar name.toList
  if letters ≠ [] ∧ letters.all isAsciiLetter then
    some ⟨String.ofList (letters.map Char.toUpper), fixed⟩
  else none

/-- The cell that a name such as `A1` or `$A$1` stands for. -/
def cellRef (name : String) : Except ParseError CellRef :=
  let (columnFixed, text) := splitDollar name.toList
  let letters := text.takeWhile isAsciiLetter
  let (rowFixed, digits) := splitDollar (text.dropWhile isAsciiLetter)
  if letters = [] then .error (.missingColumn name)
  else if digits = [] then .error (.missingRow name)
  else if !digits.all isAsciiDigit then .error (.badReference name)
  else
    match readNat? indexLimit digits with
    | none => .error (.badReference name)
    | some 0 => .error (.rowZero name)
    | some row =>
      .ok ⟨String.ofList (letters.map Char.toUpper), row, columnFixed, rowFixed⟩

/-- The reference that two names with a colon between them stand for: whole columns if both name
columns, else a range of cells. -/
def rangeRef (sheet : Option String) (first last : String) : Except ParseError Expr :=
  match columnRef? first, columnRef? last with
  | some a, some b => .ok (.columns sheet a b)
  | _, _ => do
    let a ← cellRef first
    let b ← cellRef last
    .ok (.range sheet a b)

/-- The reference that two numbers with a colon between them stand for. -/
def rowsRef (sheet : Option String) (first last : Float) : Except ParseError Expr :=
  if first < 1.0 ∨ last < 1.0 ∨ !isWhole first ∨ !isWhole last then .error .badRows
  else .ok (.rows sheet (clampNat32 first) (clampNat32 last))

/-! ## Parts that hold no expressions -/

/-- A result of reading the front of `tokens`, with the tokens left over. -/
abbrev Parsed (α : Type) (tokens : List Token) : Type :=
  Except ParseError (α × { rest : List Token // rest.length < tokens.length })

/-- A result that may have read no token. -/
abbrev ParsedMore (α : Type) (tokens : List Token) : Type :=
  Except ParseError (α × { rest : List Token // rest.length ≤ tokens.length })

/-- The rest of a range of rows, behind its first number and the colon. -/
def parseRows (sheet : Option String) (first : Float) (tokens : List Token) :
    Parsed Expr tokens :=
  match tokens with
  | .number last :: rest => (rowsRef sheet first last).map fun e => (e, ⟨rest, by simp⟩)
  | _ => .error .noRowEnd

/-- The rest of a range or of whole columns, behind the first name and the colon. -/
def parseRange (sheet : Option String) (first : String) (tokens : List Token) :
    Parsed Expr tokens :=
  match tokens with
  | .name last :: rest => (rangeRef sheet first last).map fun e => (e, ⟨rest, by simp⟩)
  | _ => .error .noRangeEnd

/-- What follows a sheet name and its exclamation mark. -/
def parseSheetRef (sheet : String) (tokens : List Token) : Parsed Expr tokens :=
  match tokens with
  | .number first :: .symbol .colon :: rest =>
    (parseRows (some sheet) first rest).map fun (e, ⟨rest, h⟩) => (e, ⟨rest, by simp; omega⟩)
  | .number _ :: _ => .error .loneSheetRow
  | .name first :: .symbol .colon :: rest =>
    (parseRange (some sheet) first rest).map fun (e, ⟨rest, h⟩) => (e, ⟨rest, by simp; omega⟩)
  | .name first :: rest =>
    (cellRef first).map fun ref => (.cell (some sheet) ref, ⟨rest, by simp⟩)
  | tokens => .error (.noReference tokens.head?)

/-- Takes one symbol. -/
def expectSymbol (symbol : Symbol) (tokens : List Token) : Parsed Unit tokens :=
  match tokens with
  | .symbol found :: rest =>
    if found = symbol then .ok ((), ⟨rest, by simp⟩)
    else .error (.expected symbol (some (.symbol found)))
  | tokens => .error (.expected symbol tokens.head?)

/-- Applies the percent signs behind an operand. -/
def parsePercents (operand : Expr) : (tokens : List Token) → ParsedMore Expr tokens
  | .symbol .percent :: rest =>
    (parsePercents (.unary .percent operand) rest).map fun (e, ⟨rest, h⟩) =>
      (e, ⟨rest, by simp; omega⟩)
  | tokens => .ok (operand, ⟨tokens, Nat.le_refl _⟩)

/-! ## Expressions -/

/-- The levels whose operators group to the left, from loosest to tightest. -/
inductive Level where
  | comparison
  | concatenation
  | sum
  | product
  deriving DecidableEq, Repr

namespace Level

/-- The operator that a symbol is on a level. -/
def operator? : Level → Symbol → Option BinaryOp
  | comparison, .equals => some .equal
  | comparison, .notEqual => some .notEqual
  | comparison, .less => some .less
  | comparison, .greater => some .greater
  | comparison, .lessEqual => some .lessEqual
  | comparison, .greaterEqual => some .greaterEqual
  | concatenation, .ampersand => some .concat
  | sum, .plus => some .add
  | sum, .minus => some .subtract
  | product, .asterisk => some .multiply
  | product, .slash => some .divide
  | _, _ => none

/-- The next tighter level that groups to the left. -/
def next? : Level → Option Level
  | comparison => some concatenation
  | concatenation => some sum
  | sum => some product
  | product => none

/-- How many levels are as tight or tighter. -/
def height : Level → Nat
  | comparison => 4
  | concatenation => 3
  | sum => 2
  | product => 1

theorem height_next {level tighter : Level} (h : level.next? = some tighter) :
    tighter.height < level.height := by
  cases level <;> simp_all [next?] <;> subst h <;> decide

theorem height_pos (level : Level) : 0 < level.height := by
  cases level <;> decide

theorem height_le (level : Level) : level.height ≤ 4 := by
  cases level <;> decide

end Level

mutual

/-- An operand of a level: an expression of the next tighter one. -/
def parseOperand (level : Level) (tokens : List Token) : Parsed Expr tokens :=
  match h : level.next? with
  | some tighter =>
    have := Level.height_next h
    parseLevel tighter tokens
  | none =>
    have := level.height_pos
    parseUnary tokens
termination_by 16 * tokens.length + (2 * level.height + 2)

/-- Operands of one level with its operators between them. -/
def parseLevel (level : Level) (tokens : List Token) : Parsed Expr tokens := do
  let (left, ⟨rest, h⟩) ← parseOperand level tokens
  let (e, ⟨rest, h'⟩) ← parseChain level left rest
  .ok (e, ⟨rest, by omega⟩)
termination_by 16 * tokens.length + (2 * level.height + 3)

/-- The operators of one level behind a first operand, with their right operands. -/
def parseChain (level : Level) (left : Expr) (tokens : List Token) : ParsedMore Expr tokens :=
  match tokens with
  | .symbol symbol :: rest =>
    match level.operator? symbol with
    | some op => do
      let (right, ⟨rest', h⟩) ← parseOperand level rest
      let (e, ⟨rest'', h'⟩) ← parseChain level (.binary op left right) rest'
      .ok (e, ⟨rest'', by simp; omega⟩)
    | none => .ok (left, ⟨.symbol symbol :: rest, Nat.le_refl _⟩)
  | tokens => .ok (left, ⟨tokens, Nat.le_refl _⟩)
termination_by 16 * tokens.length
decreasing_by
  · have := level.height_le
    simp only [List.length_cons]
    omega
  · simp only [List.length_cons]
    omega

/-- An operand with signs in front of it. A plus sign changes nothing. -/
def parseUnary (tokens : List Token) : Parsed Expr tokens :=
  match tokens with
  | .symbol .minus :: rest => do
    let (e, ⟨rest, h⟩) ← parseUnary rest
    .ok (.unary .negate e, ⟨rest, by simp; omega⟩)
  | .symbol .plus :: rest => do
    let (e, ⟨rest, h⟩) ← parseUnary rest
    .ok (e, ⟨rest, by simp; omega⟩)
  | tokens => parsePower tokens
termination_by 16 * tokens.length + 3

/-- An operand, perhaps raised to a power. -/
def parsePower (tokens : List Token) : Parsed Expr tokens := do
  let (primary, ⟨rest, h⟩) ← parsePrimary tokens
  let (left, ⟨rest, h'⟩) ← parsePercents primary rest
  match rest, h' with
  | .symbol .caret :: rest, h' => do
    have : rest.length < tokens.length := by simp at h'; omega
    let (right, ⟨rest, h''⟩) ← parseUnary rest
    .ok (.binary .power left right, ⟨rest, by omega⟩)
  | rest, h' => .ok (left, ⟨rest, by omega⟩)
termination_by 16 * tokens.length + 2

/-- A literal, a reference, a function call, or an expression in parentheses. -/
def parsePrimary (tokens : List Token) : Parsed Expr tokens :=
  match tokens with
  | .number first :: .symbol .colon :: rest => do
    let (e, ⟨rest, h⟩) ← parseRows none first rest
    .ok (e, ⟨rest, by simp; omega⟩)
  | .number x :: rest => .ok (.literal (.number x), ⟨rest, by simp⟩)
  | .text s :: rest => .ok (.literal (.text s), ⟨rest, by simp⟩)
  | .boolean b :: rest => .ok (.literal (.boolean b), ⟨rest, by simp⟩)
  | .quotedName sheet :: rest => do
    let (_, ⟨rest, h⟩) ← expectSymbol .exclamation rest
    let (e, ⟨rest, h'⟩) ← parseSheetRef sheet rest
    .ok (e, ⟨rest, by simp; omega⟩)
  | .name sheet :: .symbol .exclamation :: rest => do
    let (e, ⟨rest, h⟩) ← parseSheetRef sheet rest
    .ok (e, ⟨rest, by simp; omega⟩)
  | .name name :: .symbol .openParen :: .symbol .closeParen :: rest =>
    .ok (.call name [], ⟨rest, by simp; omega⟩)
  | .name name :: .symbol .openParen :: rest => do
    let (args, ⟨rest, h⟩) ← parseArguments rest
    .ok (.call name args, ⟨rest, by simp; omega⟩)
  | .name first :: .symbol .colon :: rest => do
    let (e, ⟨rest, h⟩) ← parseRange none first rest
    .ok (e, ⟨rest, by simp; omega⟩)
  | .name name :: rest => do
    let ref ← cellRef name
    .ok (.cell none ref, ⟨rest, by simp⟩)
  | .symbol .openParen :: rest => do
    let (e, ⟨rest, h⟩) ← parseLevel .comparison rest
    let (_, ⟨rest, h'⟩) ← expectSymbol .closeParen rest
    .ok (e, ⟨rest, by simp; omega⟩)
  | [] => .error .unexpectedEnd
  | .illegal c :: _ => .error (.illegal c)
  | token :: _ => .error (.unexpected token)
termination_by 16 * tokens.length + 1
decreasing_by
  · simp only [List.length_cons]; omega
  · have := Level.height_le .comparison
    simp only [List.length_cons]
    omega

/-- Arguments with commas between them, up to the closing parenthesis. -/
def parseArguments (tokens : List Token) : Parsed (List Expr) tokens := do
  let (arg, ⟨rest, h⟩) ← parseLevel .comparison tokens
  match rest, h with
  | .symbol .comma :: rest, h => do
    have : rest.length < tokens.length := by simp at h; omega
    let (args, ⟨rest, h'⟩) ← parseArguments rest
    .ok (arg :: args, ⟨rest, by omega⟩)
  | rest, h => do
    let (_, ⟨rest, h'⟩) ← expectSymbol .closeParen rest
    .ok ([arg], ⟨rest, by omega⟩)
termination_by 16 * tokens.length + 12
decreasing_by
  · have := Level.height_le .comparison
    omega
  · omega

end

/-! ## Whole formulas -/

/-- The tokens behind a leading equals sign. -/
def dropEquals : List Token → List Token
  | .symbol .equals :: rest => rest
  | tokens => tokens

/-- Reads all of a list of tokens as one expression. -/
def parseTokens (tokens : List Token) : Except ParseError Expr :=
  match dropEquals tokens with
  | [] => .error .empty
  | tokens => do
    let (e, ⟨rest, _⟩) ← parseLevel .comparison tokens
    match rest with
    | [] => .ok e
    | found :: _ => .error (.trailing found)

/-- Reads a formula. -/
def parseFormula (formula : String) : Except ParseError Expr := parseTokens (tokenize formula)

end SheetPress
