import SheetPress.Markup.Tag

/-!
# The markup of formulas

A formula in a package has no equals sign. Functions that are younger than the format of packages
are called by marked names, such as `_xlfn.CONCAT`: `formulaPieces` finds the calls of a formula and
`PackageFormula.ofText` marks those of young functions. Some young functions spill: their results
fill more cells than the one with the formula. A formula that calls one of them goes without a style.
-/

namespace SheetPress

/-! ## Young functions -/

/-- Functions that are younger than the format of packages. -/
def youngFunctions : List String :=
  ["ACOT", "ACOTH", "AGGREGATE", "ARABIC", "ARRAYTOTEXT", "BASE", "BETA.DIST", "BETA.INV",
   "BINOM.DIST", "BINOM.DIST.RANGE", "BINOM.INV", "BITAND", "BITLSHIFT", "BITOR", "BITRSHIFT",
   "BITXOR", "CEILING.MATH", "CEILING.PRECISE", "CHISQ.DIST", "CHISQ.DIST.RT", "CHISQ.INV",
   "CHISQ.INV.RT", "CHISQ.TEST", "COMBINA", "CONCAT", "CONFIDENCE.NORM", "CONFIDENCE.T", "COT",
   "COTH", "COVARIANCE.P", "COVARIANCE.S", "CSC", "CSCH", "DAYS", "DECIMAL", "ERF.PRECISE",
   "ERFC.PRECISE", "EXPON.DIST", "F.DIST", "F.DIST.RT", "F.INV", "F.INV.RT", "F.TEST", "FIELDVALUE",
   "FILTERXML", "FLOOR.MATH", "FLOOR.PRECISE", "FORECAST.ETS", "FORECAST.ETS.CONFINT",
   "FORECAST.ETS.SEASONALITY", "FORECAST.ETS.STAT", "FORECAST.LINEAR", "FORMULATEXT", "GAMMA",
   "GAMMA.DIST", "GAMMA.INV", "GAMMALN.PRECISE", "GAUSS", "HYPGEOM.DIST", "IFNA", "IFS", "IMAGE",
   "IMCOSH", "IMCOT", "IMCSC", "IMCSCH", "IMSEC", "IMSECH", "IMSINH", "IMTAN", "ISFORMULA",
   "ISOMITTED", "ISOWEEKNUM", "LET", "LOGNORM.DIST", "LOGNORM.INV", "MAXIFS", "MINIFS", "MODE.MULT",
   "MODE.SNGL", "MUNIT", "NEGBINOM.DIST", "NORM.DIST", "NORM.INV", "NORM.S.DIST", "NORM.S.INV",
   "NUMBERVALUE", "PDURATION", "PERCENTILE.EXC", "PERCENTILE.INC", "PERCENTRANK.EXC",
   "PERCENTRANK.INC", "PERMUTATIONA", "PHI", "POISSON.DIST", "PQSOURCE", "QUARTILE.EXC",
   "QUARTILE.INC", "QUERYSTRING", "RANK.AVG", "RANK.EQ", "RRI", "SEC", "SECH", "SHEET", "SHEETS",
   "SKEW.P", "STDEV.P", "STDEV.S", "T.DIST", "T.DIST.2T", "T.DIST.RT", "T.INV", "T.INV.2T",
   "T.TEST", "TEXTAFTER", "TEXTBEFORE", "TEXTJOIN", "UNICHAR", "UNICODE", "VALUETOTEXT", "VAR.P",
   "VAR.S", "WEBSERVICE", "WEIBULL.DIST", "XMATCH", "XOR", "Z.TEST"]

/-- Functions whose results fill further cells, with their marks. All of them are young. -/
def spillingFunctions : List (String × String) :=
  (["ANCHORARRAY", "BYCOL", "BYROW", "CHOOSECOLS", "CHOOSEROWS", "DROP", "EXPAND", "HSTACK",
    "LAMBDA", "MAKEARRAY", "MAP", "RANDARRAY", "REDUCE", "SCAN", "SEQUENCE", "SINGLE", "SORTBY",
    "SWITCH", "TAKE", "TEXTSPLIT", "TOCOL", "TOROW", "UNIQUE", "VSTACK", "WRAPCOLS", "WRAPROWS",
    "XLOOKUP"].map fun name => (name, "_xlfn."))
  ++ ["FILTER", "PY", "SORT"].map fun name => (name, "_xlfn._xlws.")

/-- The mark of a spilling function. -/
def spillingMark? (name : List Char) : Option String :=
  (spillingFunctions.find? fun (other, _) => isNamed name other).map (·.2)

/-- The mark of a function, empty if the function is not young. -/
def functionMark (name : List Char) : String :=
  match spillingMark? name with
  | some mark => mark
  | none => if youngFunctions.any (isNamed name) then "_xlfn." else ""

/-! ## Calls -/

/-- A piece of a formula: a text, or the name of a function in front of an opening parenthesis. -/
inductive FormulaPiece where
  | text (chars : List Char)
  | call (name : List Char)
  deriving DecidableEq, Repr

/-- Characters that names of functions are made of. -/
def isFunctionNameChar (c : Char) : Bool := c.isUpper || c.isDigit || c = '.'

/-- A word with a further character at its end, kept in reverse order. No word stays none. -/
def extendWord (word : List Char) (c : Char) : List Char := if word.isEmpty then [] else c :: word

/-- The pieces of a formula. `word` holds the name that may end at the current character, in reverse
order, and `quoted` says whether the character stands in a quotation. Nothing in a quotation is a
call. A word right in front of a quotation moves to its end and has the quotation once more behind
it: `A1"x"` becomes `"xA1"x"`. -/
def formulaPieces (quoted : Bool) (word : List Char) : List Char → List FormulaPiece
  | [] => [.text word.reverse]
  | c :: rest =>
    if c = '"' ∧ quoted = true then
      .text word.reverse :: .text [c] :: formulaPieces false [] rest
    else if c = '"' ∨ quoted = true then
      .text [c] :: formulaPieces true (extendWord word c) rest
    else if isFunctionNameChar c then formulaPieces false (c :: word) rest
    else if c = '(' then .call word.reverse :: .text [c] :: formulaPieces false [] rest
    else .text word.reverse :: .text [c] :: formulaPieces false [] rest

namespace FormulaPiece

/-- A piece with the name of a young function marked. -/
def marked : FormulaPiece → List Char
  | text chars => chars
  | call name => (functionMark name).toList ++ name

/-- Whether a piece calls a spilling function. -/
def spills : FormulaPiece → Bool
  | text _ => false
  | call name => (spillingMark? name).isSome

end FormulaPiece

/-! ## Formulas -/

/-- A formula as a package has it. -/
structure PackageFormula where
  text : String
  spills : Bool
  deriving DecidableEq, Repr

/-- A text without a character in front of it. -/
def dropLeading (c : Char) : List Char → List Char
  | [] => []
  | d :: rest => if d = c then rest else d :: rest

/-- A text without a character at its end. -/
def dropTrailing (c : Char) (text : List Char) : List Char :=
  if text.getLast? = some c then text.dropLast else text

/-- A formula without its equals sign and without the braces around it. -/
def bareFormula (formula : String) : List Char :=
  dropTrailing '}' (dropLeading '=' (dropLeading '{' (dropLeading '=' formula.toList)))

/-- Whether a formula with marks calls a spilling function by its marked name. -/
def callsMarkedSpilling (formula : List Char) : Bool :=
  spillingFunctions.any fun (name, mark) => occursIn (mark ++ name ++ "(").toList formula

namespace PackageFormula

/-- A formula as a package has it. One that has marks already keeps them as they are. -/
def ofText (formula : String) : PackageFormula :=
  let bare := bareFormula formula
  if occursIn "_xlfn.".toList bare then
    { text := String.ofList bare, spills := callsMarkedSpilling bare }
  else
    let pieces := formulaPieces false [] bare
    { text := String.ofList (pieces.flatMap (·.marked)), spills := pieces.any (·.spills) }

end PackageFormula

end SheetPress
