import SheetPress.Json.Basic
import SheetPress.Template.Error
import SheetPress.Text.CaseMap

/-!
# Actions

The text between double braces of a template is an action: a value or a function call, perhaps handed
on through a pipeline. Values are fields of the data, literals, or what functions give.
-/

namespace SheetPress

/-- The text that a value is shown as. A missing value is shown as nothing, and arrays and objects as
JSON. -/
def Json.display : Json → String
  | null => ""
  | string s => s
  | bool b => if b then "true" else "false"
  | number (.natural n) => if n < powerOfTwo 63 then natText n else numberText (Float.ofNat n)
  | number (.negative n) => "-" ++ natText n
  | number (.float x) => numberText x
  | other => other.compact

/-! ## Functions -/

/-- A function of values; a failure says what went wrong. -/
abbrev ActionFunction := List Json → Except String Json

/-- The functions that actions can call, by name. -/
structure FunctionTable where
  functions : List (String × ActionFunction)

namespace FunctionTable

/-- No functions. -/
def empty : FunctionTable := ⟨[]⟩

/-- Adds a function; one of the same name is replaced. -/
def insert (t : FunctionTable) (name : String) (f : ActionFunction) : FunctionTable :=
  ⟨(name, f) :: t.functions.filter (·.1 != name)⟩

/-- The function with a name. -/
def find? (t : FunctionTable) (name : String) : Option ActionFunction := t.functions.lookup name

/-- Whether there is a function with a name. -/
def contains (t : FunctionTable) (name : String) : Bool := (t.find? name).isSome

/-- The names of the functions in order. -/
def names (t : FunctionTable) : List String := (t.functions.map (·.1)).mergeSort (· ≤ ·)

/-- The table as it is shown for debugging. -/
def summary (t : FunctionTable) : String :=
  "FunctionTable \x7b functions: [" ++ ", ".intercalate (t.names.map Json.quote) ++ "] \x7d"

end FunctionTable

/-- Whether a value counts as missing for `default`: nothing, false, zero, or without content. -/
def isMissing : Json → Bool
  | .null => true
  | .bool b => !b
  | .number n => n.toFloat == 0.0
  | .string s => s.isEmpty
  | .array items => items.isEmpty
  | .object members => members.isEmpty

/-- The complaint about a wrong number of arguments. -/
def wrongCount (name expected : String) (args : List Json) : String :=
  name ++ " expects " ++ expected ++ ", got " ++ natText args.length

/-- A function of the text of one value. -/
def textFunction (name : String) (f : String → String) : ActionFunction
  | [value] => .ok (.string (f value.display))
  | args => .error (wrongCount name "1 argument" args)

/-- `default`: the second argument, or the first if that is missing. -/
def defaultFunction : ActionFunction
  | [fallback, given] => .ok (if isMissing given then fallback else given)
  | args => .error (wrongCount "default" "2 arguments" args)

/-- Whether a value is a string. -/
def isString : Json → Bool
  | .string _ => true
  | _ => false

/-- The texts of values, with a space between two that are no strings. -/
def printed : List Json → String
  | [] => ""
  | [value] => value.display
  | a :: b :: rest =>
    a.display ++ (if isString a || isString b then "" else " ") ++ printed (b :: rest)

/-- `len`: the number of characters, items or members. -/
def lengthFunction : ActionFunction
  | [.string s] => .ok (.number (.natural s.length))
  | [.array items] => .ok (.number (.natural items.length))
  | [.object members] => .ok (.number (.natural members.length))
  | [other] => .error ("len of " ++ other.display)
  | args => .error (wrongCount "len" "1 argument" args)

/-- The functions that every template can call. -/
def FunctionTable.standard : FunctionTable where
  functions := [
    ("upper", textFunction "upper" toUpperText),
    ("lower", textFunction "lower" toLowerText),
    ("trim", textFunction "trim" trimText),
    ("default", defaultFunction),
    ("print", fun args => .ok (.string (printed args))),
    ("len", lengthFunction)]

/-! ## Words of actions -/

/-- A word of an action. -/
inductive ActionWord where
  /-- A path of members; the empty path is the whole data. -/
  | field (path : List String)
  | literal (value : Json)
  | function (name : String)
  | pipe
  deriving Repr, Inhabited

/-- The character that a backslash and a character stand for: a line end, a tab, or the character as
it is. -/
def unescape : Char → Char
  | 'n' => '\n'
  | 't' => '\t'
  | c => c

/-- The text of a quoted literal and what lies behind it. -/
def quotedLiteral? : List Char → Option (List Char × List Char)
  | [] => none
  | '"' :: rest => some ([], rest)
  | '\\' :: c :: rest =>
    (quotedLiteral? rest).map fun (text, behind) => (unescape c :: text, behind)
  | ['\\'] => none
  | c :: rest => (quotedLiteral? rest).map fun (text, behind) => (c :: text, behind)

/-- The backquote, which encloses raw literals. -/
def backquote : Char := '\x60'

/-- The text of a raw literal and what lies behind it. -/
def rawLiteral? : List Char → Option (List Char × List Char)
  | [] => none
  | c :: rest =>
    if c = backquote then some ([], rest)
    else (rawLiteral? rest).map fun (text, behind) => (c :: text, behind)

/-- Characters that end a word. -/
def endsWord (c : Char) : Bool := isBlank c || c = '|' || c = '"'

/-- Reads an integer of 64 bits with an optional sign. -/
def readInt64? (word : List Char) : Option JsonNumber :=
  match word with
  | '-' :: digits =>
    if digits.head? = some '+' then none
    else (readNat? (powerOfTwo 63 + 1) digits).map fun n => if n = 0 then .natural 0 else .negative n
  | word => (readNat? (powerOfTwo 63) word).map .natural

/-- A number literal. -/
def numberWord (word : List Char) : Except ActionFault ActionWord :=
  match readInt64? word with
  | some n => .ok (.literal (.number n))
  | none =>
    match readNumber? word with
    | some x =>
      if x.isFinite then .ok (.literal (.number (.float x)))
      else .error (.badNumber (String.ofList word))
    | none => .error (.badNumber (String.ofList word))

/-- A path of members behind its leading point. -/
def pathWord (path : List Char) : Except ActionFault ActionWord :=
  let parts := path.splitOn '.'
  if parts.any List.isEmpty then .error (.badPath (String.ofList ('.' :: path)))
  else .ok (.field (parts.map String.ofList))

/-- The word that some characters spell. -/
def wordOf (word : List Char) : Except ActionFault ActionWord :=
  match word with
  | ['.'] => .ok (.field [])
  | '.' :: path => pathWord path
  | ['t', 'r', 'u', 'e'] => .ok (.literal (.bool true))
  | ['f', 'a', 'l', 's', 'e'] => .ok (.literal (.bool false))
  | ['n', 'i', 'l'] => .ok (.literal .null)
  | word =>
    if word.head?.any (fun c => isAsciiDigit c || c = '-' || c = '+') then numberWord word
    else if word.all fun c => isAlphanumeric c || c = '_' then .ok (.function (String.ofList word))
    else .error (.badWord (String.ofList word))

/-- The word that begins with `c`, and the text behind it. -/
def nextWord (c : Char) (rest : List Char) : Except ActionFault (ActionWord × List Char) :=
  if c = '|' then .ok (.pipe, rest)
  else if c = '"' then
    match quotedLiteral? rest with
    | some (text, behind) => .ok (.literal (.string (String.ofList text)), behind)
    | none => .error .unterminatedText
  else if c = backquote then
    match rawLiteral? rest with
    | some (text, behind) => .ok (.literal (.string (String.ofList text)), behind)
    | none => .error .unterminatedRawText
  else if c = '(' ∨ c = ')' ∨ c = '$' then .error (.unsupported c)
  else
    (wordOf (c :: rest.takeWhile (! endsWord ·))).map fun word =>
      (word, rest.dropWhile (! endsWord ·))

/-! ## Every word takes at least one character -/

theorem quotedLiteral?_length_le {text body behind : List Char}
    (h : quotedLiteral? text = some (body, behind)) : behind.length ≤ text.length := by
  fun_induction quotedLiteral? text generalizing body with
  | case1 => cases h
  | case2 rest => simp_all
  | case3 c rest ih =>
    simp only [Option.map_eq_some_iff, Prod.mk.injEq, Prod.exists] at h
    obtain ⟨text, rest', h, -, rfl⟩ := h
    have := ih h
    simp only [List.length_cons]
    omega
  | case4 => cases h
  | case5 c rest _ _ _ ih =>
    simp only [Option.map_eq_some_iff, Prod.mk.injEq, Prod.exists] at h
    obtain ⟨text, rest', h, -, rfl⟩ := h
    have := ih h
    simp only [List.length_cons]
    omega

theorem rawLiteral?_length_le {text body behind : List Char}
    (h : rawLiteral? text = some (body, behind)) : behind.length ≤ text.length := by
  induction text generalizing body with
  | nil => cases h
  | cons c rest ih =>
    unfold rawLiteral? at h
    split at h
    · simp_all
    · simp only [Option.map_eq_some_iff, Prod.mk.injEq, Prod.exists] at h
      obtain ⟨text, rest', h, -, rfl⟩ := h
      have := ih h
      simp only [List.length_cons]
      omega

theorem nextWord_length_le {c : Char} {rest behind : List Char} {word : ActionWord}
    (h : nextWord c rest = .ok (word, behind)) : behind.length ≤ rest.length := by
  unfold nextWord at h
  split at h
  · simp only [Except.ok.injEq, Prod.mk.injEq] at h
    exact h.2 ▸ Nat.le_refl _
  · split at h
    · split at h
      · rename_i hq
        simp only [Except.ok.injEq, Prod.mk.injEq] at h
        exact h.2 ▸ quotedLiteral?_length_le hq
      · cases h
    · split at h
      · split at h
        · rename_i hq
          simp only [Except.ok.injEq, Prod.mk.injEq] at h
          exact h.2 ▸ rawLiteral?_length_le hq
        · cases h
      · split at h
        · cases h
        · cases hw : wordOf (c :: rest.takeWhile (! endsWord ·)) with
          | error e => simp [hw, Except.map] at h
          | ok w =>
            simp only [hw, Except.map, Except.ok.injEq, Prod.mk.injEq] at h
            exact h.2 ▸ (List.dropWhile_sublist _).length_le

/-- The first word of an action and the text behind it, if there is one. -/
def firstWord? (text : List Char) : Except ActionFault (Option (ActionWord × List Char)) :=
  match text.dropWhile isBlank with
  | [] => .ok none
  | c :: rest => (nextWord c rest).map some

theorem firstWord?_length_lt {text behind : List Char} {word : ActionWord}
    (h : firstWord? text = .ok (some (word, behind))) : behind.length < text.length := by
  have hd := length_dropWhile_le isBlank text
  unfold firstWord? at h
  split at h
  · cases h
  · rename_i c rest heq
    rw [heq] at hd
    simp only [List.length_cons] at hd
    cases hw : nextWord c rest with
    | error e => simp [hw, Except.map] at h
    | ok step =>
      simp only [hw, Except.map, Except.ok.injEq, Option.some.injEq] at h
      have := nextWord_length_le (h ▸ hw)
      omega

/-- The words of an action. -/
def actionWords (text : List Char) : Except ActionFault (List ActionWord) :=
  match h : firstWord? text with
  | .error e => .error e
  | .ok none => .ok []
  | .ok (some (word, behind)) =>
    have := firstWord?_length_lt h
    (actionWords behind).map (word :: ·)
termination_by text.length

/-! ## Evaluating actions -/

/-- Follows a path of members; a member that is not there is null. -/
def Json.follow (value : Json) : List String → Json
  | [] => value
  | name :: rest =>
    match value.member? name with
    | some next => follow next rest
    | none => .null

/-- The value of a word that is no function. -/
def ActionWord.operand (data : Json) : ActionWord → Except ActionFault Json
  | field path => .ok (data.follow path)
  | literal value => .ok value
  | function name => .error (.functionAsArgument name)
  | pipe => .error .missingCommand

/-- The commands of a pipeline: the words between pipes. -/
def splitCommands : List ActionWord → List (List ActionWord)
  | [] => [[]]
  | .pipe :: rest => [] :: splitCommands rest
  | word :: rest =>
    match splitCommands rest with
    | [] => [[word]]
    | command :: commands => (word :: command) :: commands

/-- The value of one command; the piped value becomes the last argument of a function. -/
def runCommand (functions : FunctionTable) (data : Json) (piped : Option Json) :
    List ActionWord → Except ActionFault Json
  | [] => .error .missingCommand
  | .function name :: args =>
    match functions.find? name with
    | none => .error (.undefined name)
    | some f => do
      let values ← args.mapM (ActionWord.operand data)
      match f (values ++ piped.toList) with
      | .ok value => .ok value
      | .error message => .error (.callFailed name message)
  | word :: args =>
    if args ≠ [] ∨ piped.isSome then .error .argumentOfValue else word.operand data

/-- The value of a pipeline, given the value piped into it. -/
def runPipeline (functions : FunctionTable) (data : Json) (piped : Option Json) :
    List (List ActionWord) → Except ActionFault Json
  | [] => .ok (piped.getD .null)
  | command :: commands => do
    let value ← runCommand functions data piped command
    runPipeline functions data (some value) commands

/-- The value of an action. -/
def runAction (functions : FunctionTable) (data : Json) (text : List Char) :
    Except ActionFault Json := do
  match ← actionWords text with
  | [] => .error .empty
  | words => runPipeline functions data none (splitCommands words)

end SheetPress
