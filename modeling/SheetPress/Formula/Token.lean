import SheetPress.Cell.Basic

/-!
# Tokens of formulas

The words that a formula is made of, and how each is written.
-/

namespace SheetPress

/-- Operators and punctuation. -/
inductive Symbol where
  | plus | minus | asterisk | slash | caret | ampersand | percent
  | equals | notEqual | less | greater | lessEqual | greaterEqual
  | openParen | closeParen | comma | colon | exclamation
  deriving DecidableEq, Repr

/-- How a symbol is written. -/
def Symbol.text : Symbol → String
  | plus => "+"
  | minus => "-"
  | asterisk => "*"
  | slash => "/"
  | caret => "^"
  | ampersand => "&"
  | percent => "%"
  | equals => "="
  | notEqual => "<>"
  | less => "<"
  | greater => ">"
  | lessEqual => "<="
  | greaterEqual => ">="
  | openParen => "("
  | closeParen => ")"
  | comma => ","
  | colon => ":"
  | exclamation => "!"

/-- A word of a formula. Dollar signs stay inside the name that they mark, as in `$A$1`. -/
inductive Token where
  | number (x : Float)
  | text (s : String)
  | boolean (b : Bool)
  /-- A function, a sheet or a reference, in upper case. -/
  | name (s : String)
  /-- A sheet name in single quotes. -/
  | quotedName (s : String)
  | symbol (s : Symbol)
  /-- A character that begins no token, or the first one of a broken number. -/
  | illegal (c : Char)
  deriving DecidableEq, Repr

/-- How a token is shown in messages. -/
def Token.display : Token → String
  | number x => numberText x
  | text s => "\"" ++ s ++ "\""
  | boolean b => booleanText b
  | name s => s
  | quotedName s => "'" ++ s ++ "'"
  | symbol s => s.text
  | illegal c => "unexpected character '" ++ String.singleton c ++ "'"

/-- How the next token, or the end of the formula, is shown in messages. -/
def displayToken? : Option Token → String
  | some token => token.display
  | none => "end of formula"

end SheetPress
