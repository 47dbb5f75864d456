import SheetPress.Markup.Tag
import SheetPress.Text.EncodingTable

/-!
# Markup as events

A document in markup is read as the series of its opening tags, closing tags and texts. A tag that
closes itself counts as an opening and a closing one. `Markup.ofText` reads as far as it can; a
document may end anywhere, also within a tag, but not within a comment or another section that
begins with an exclamation mark. Tags and texts keep the encoding that the document has declared in
front of them. Whether closing tags close the tags that are open is a question of its own,
`Markup.isNested`.
-/

namespace SheetPress

/-- A text with its entities, and the encoding that the document has declared in front of it. -/
structure MarkupText where
  raw : List Char
  encoding : Encoding := .utf8
  deriving DecidableEq, Repr

/-- A text in the encoding of the document, with its entities replaced. -/
def MarkupText.decoded? (t : MarkupText) : Option (List Char) :=
  (t.encoding.redecode? t.raw).bind decodeEntities?

/-- A part of a document. -/
inductive MarkupEvent where
  | opening (tag : MarkupTag)
  | closing (name : List Char)
  | text (t : MarkupText)
  deriving DecidableEq, Repr

/-- A document as a series of events, and whether it could be read to its end. -/
structure Markup where
  events : List MarkupEvent
  complete : Bool
  deriving DecidableEq, Repr

/-! ## Sections -/

/-- A text cut at the first character for which a test holds, which is dropped. -/
def cutAt (c : Char) (text : List Char) : List Char × List Char :=
  (text.takeWhile (· ≠ c), (text.dropWhile (· ≠ c)).drop 1)

/-- The quote that is open behind a character, where `quote` is the one open before it. -/
def nextQuote (quote : Option Char) (c : Char) : Option Char :=
  match quote with
  | none => if c = '"' ∨ c = '\'' then some c else none
  | some q => if c = q then none else some q

/-- The inside of an opening tag and the text behind it. Quotes enclose characters that do not end
the tag; `quote` is the one that is open. -/
def tagInside (quote : Option Char) : List Char → List Char × List Char
  | [] => ([], [])
  | c :: rest =>
    if quote = none ∧ c = '>' then ([], rest)
    else (c :: (tagInside (nextQuote quote c) rest).1, (tagInside (nextQuote quote c) rest).2)

/-- Whether a text begins with the given lower-case letters and signs, in either case. -/
def beginsWith (text : List Char) (lead : String) : Bool :=
  (text.take lead.length).map Char.toLower == lead.toList

/-- The inside of a declaration of the document type, in which angle brackets are paired, and the
text behind it. -/
def pairedInside? (depth : Nat) : List Char → Option (List Char × List Char)
  | [] => none
  | c :: rest =>
    if c = '>' ∧ depth = 0 then some ([], rest)
    else
      let depth := if c = '<' then depth + 1 else if c = '>' then depth - 1 else depth
      (pairedInside? depth rest).map fun (inside, behind) => (c :: inside, behind)

/-- The text behind a section that begins with an exclamation mark: a comment, a section of character
data, or the declaration of the document type. -/
def behindSection? (text : List Char) : Option (List Char) :=
  match text with
  | '-' :: _ =>
    if beginsWith text "--" then
      (splitAtFirst? ['-', '-', '>'] (text.drop 2)).map fun (_, behind) => behind
    else none
  | '[' :: _ => do
    let (inside, behind) ← splitAtFirst? [']', ']', '>'] text
    if beginsWith inside "[cdata[" then some behind else none
  | c :: _ =>
    if c = 'D' ∨ c = 'd' then do
      let (inside, behind) ← pairedInside? 0 text
      if beginsWith inside "doctype" && (inside.drop 7).any (! isMarkupSpace ·) then some behind
      else none
    else none
  | [] => none

/-- The inside of an instruction and the text behind it. It ends with a question mark and an angle
bracket. -/
def instruction? (text : List Char) : Option (List Char × List Char) :=
  let (inside, behind) := cutAt '>' text
  if inside.getLast? = some '?' ∧ 1 < inside.length then some (inside.dropLast, behind) else none

/-- The encoding that an instruction declares, if it is the declaration of a document. -/
def declaredEncoding? (inside : List Char) : Option Encoding :=
  match inside with
  | 'x' :: 'm' :: 'l' :: c :: rest =>
    if isMarkupSpace c then
      match writtenIn? "encoding" (attributesFrom false [] rest) with
      | some (some label) => Encoding.ofLabel? label
      | _ => none
    else none
  | _ => none

/-! ## Tags -/

/-- An opening tag by its inside. -/
def openingTag (encoding : Encoding) (inside : List Char) : MarkupTag where
  name := inside.takeWhile (! isMarkupSpace ·)
  attributeText := inside.dropWhile (! isMarkupSpace ·)
  encoding := encoding

/-- An opening tag by its inside, with the closing one if it closes itself. -/
def openingEvents (encoding : Encoding) (inside : List Char) : List MarkupEvent :=
  match inside.getLast? with
  | some '/' =>
    let tag := openingTag encoding inside.dropLast
    [.opening tag, .closing tag.name]
  | _ => [.opening (openingTag encoding inside)]

/-- The name of a closing tag, without the white space behind it. -/
def closingName (inside : List Char) : List Char :=
  let name := (inside.reverse.dropWhile isMarkupSpace).reverse
  if name.isEmpty then inside else name

/-! ## Documents -/

/-- What reading one part of a document gives: its end, or events, the encoding declared so far and
the text behind. -/
inductive MarkupStep where
  | stop (complete : Bool)
  | go (events : List MarkupEvent) (declared : Option Encoding) (rest : List Char)

/-- Reads the part of a document behind an opening angle bracket. Of several declared encodings the
first counts. -/
def readBracket (declared : Option Encoding) : List Char → MarkupStep
  | [] => .stop true
  | '!' :: rest =>
    match behindSection? rest with
    | some behind => .go [] declared behind
    | none => .stop false
  | '/' :: rest => .go [.closing (closingName (cutAt '>' rest).1)] declared (cutAt '>' rest).2
  | '?' :: rest =>
    match instruction? rest with
    | some (inside, behind) => .go [] (declared.or (declaredEncoding? inside)) behind
    | none => .stop false
  | c :: rest =>
    .go (openingEvents (declared.getD .utf8) (tagInside none (c :: rest)).1) declared
      (tagInside none (c :: rest)).2

theorem cutAt_length_le (c : Char) (text : List Char) : (cutAt c text).2.length ≤ text.length := by
  have := length_dropWhile_le (· ≠ c) text
  simp only [cutAt, List.length_drop]
  omega

theorem tagInside_length_le (quote : Option Char) (text : List Char) :
    (tagInside quote text).2.length ≤ text.length := by
  induction text generalizing quote with
  | nil => simp [tagInside]
  | cons c rest ih =>
    unfold tagInside
    split
    · simp
    · have := ih (nextQuote quote c)
      simp only [List.length_cons]
      omega

theorem pairedInside?_length_le {depth : Nat} {text inside behind : List Char}
    (h : pairedInside? depth text = some (inside, behind)) : behind.length ≤ text.length := by
  induction text generalizing depth inside with
  | nil => cases h
  | cons c rest ih =>
    unfold pairedInside? at h
    split at h
    · simp_all
    · simp only [Option.map_eq_some_iff, Prod.mk.injEq, Prod.exists] at h
      obtain ⟨inside', behind', h, -, rfl⟩ := h
      have := ih h
      simp only [List.length_cons]
      omega

theorem length_splitAtFirst?_le {mark text front behind : List Char}
    (h : splitAtFirst? mark text = some (front, behind)) : behind.length ≤ text.length := by
  induction text generalizing front with
  | nil =>
    unfold splitAtFirst? at h
    split at h <;> simp_all
  | cons c rest ih =>
    unfold splitAtFirst? at h
    split at h
    · rename_i hd
      simp only [Option.some.injEq, Prod.mk.injEq] at h
      obtain ⟨-, rfl⟩ := h
      have hlead : ∀ {lead text behind : List Char}, dropLead? lead text = some behind →
          behind.length ≤ text.length := by
        intro lead text behind h
        fun_induction dropLead? lead text with
        | case1 => simp_all
        | case2 => cases h
        | case3 lead c text ih => have := ih h; simp only [List.length_cons]; omega
        | case4 => cases h
      exact hlead hd
    · simp only [Option.map_eq_some_iff, Prod.mk.injEq, Prod.exists] at h
      obtain ⟨front', behind', h, -, rfl⟩ := h
      have := ih h
      simp only [List.length_cons]
      omega

theorem behindSection?_length_le {text behind : List Char}
    (h : behindSection? text = some behind) : behind.length ≤ text.length := by
  unfold behindSection? at h
  split at h
  · split at h
    · simp only [Option.map_eq_some_iff, Prod.exists, exists_eq_right] at h
      obtain ⟨front, h⟩ := h
      have := length_splitAtFirst?_le h
      simp only [List.length_drop] at this
      omega
    · cases h
  · simp only [Option.bind_eq_bind, Option.bind_eq_some_iff, Prod.exists] at h
    obtain ⟨inside, behind', h, h'⟩ := h
    split at h'
    · cases h'
      exact length_splitAtFirst?_le h
    · cases h'
  · split at h
    · simp only [Option.bind_eq_bind, Option.bind_eq_some_iff, Prod.exists] at h
      obtain ⟨inside, behind', h, h'⟩ := h
      split at h'
      · cases h'
        exact pairedInside?_length_le h
      · cases h'
    · cases h
  · cases h

theorem readBracket_length_le {declared declared' : Option Encoding} {text rest : List Char}
    {events : List MarkupEvent} (h : readBracket declared text = .go events declared' rest) :
    rest.length ≤ text.length := by
  unfold readBracket at h
  split at h
  · cases h
  · split at h
    · rename_i hs
      cases h
      have := behindSection?_length_le hs
      simp only [List.length_cons]
      omega
    · cases h
  · rename_i inside
    cases h
    have := cutAt_length_le '>' inside
    simp only [List.length_cons]
    omega
  · rename_i inside
    split at h
    · rename_i hi
      cases h
      unfold instruction? at hi
      simp only [Option.ite_none_right_eq_some, Option.some.injEq, Prod.mk.injEq] at hi
      have := cutAt_length_le '>' inside
      simp only [List.length_cons]
      rw [← hi.2.2]
      omega
    · cases h
  · rename_i c inside _ _ _
    cases h
    exact tagInside_length_le none (c :: inside)

namespace Markup

/-- Reads a document up to the end of its first tag or section. -/
def readPart (declared : Option Encoding) (text : List Char) : MarkupStep :=
  match text.dropWhile (· ≠ '<') with
  | [] => .stop true
  | _ :: behind => readBracket declared behind

/-- Puts events in front of a document. -/
def prepend (events : List MarkupEvent) (m : Markup) : Markup :=
  { m with events := events ++ m.events }

/-- The event of the text up to the first tag or section, unless it is empty. -/
def textEvents (declared : Option Encoding) (text : List Char) : List MarkupEvent :=
  let raw := text.takeWhile (· ≠ '<')
  if raw.isEmpty then [] else [.text ⟨raw, declared.getD .utf8⟩]

theorem readPart_length_lt {declared declared' : Option Encoding} {text rest : List Char}
    {events : List MarkupEvent} (h : readPart declared text = .go events declared' rest) :
    rest.length < text.length := by
  have hd := length_dropWhile_le (· ≠ '<') text
  unfold readPart at h
  split at h
  · cases h
  · rename_i c behind heq
    rw [heq] at hd
    simp only [List.length_cons] at hd
    have := readBracket_length_le h
    omega

/-- Reads what is left of a document, given the encoding that was declared in front of it. -/
def ofRest (declared : Option Encoding) (text : List Char) : Markup :=
  match h : readPart declared text with
  | .stop complete => ⟨textEvents declared text, complete⟩
  | .go events declared' rest =>
    have := readPart_length_lt h
    (ofRest declared' rest).prepend (textEvents declared text ++ events)
termination_by text.length

/-- Reads a document. -/
def ofText (text : List Char) : Markup := ofRest none text

/-- Whether every closing tag closes the tag opened last, where `opened` are the names of the tags
that are open, the last one at the front. Tags may stay open. -/
def isNestedFrom (opened : List (List Char)) : List MarkupEvent → Bool
  | [] => true
  | .opening tag :: rest => isNestedFrom (tag.name :: opened) rest
  | .closing name :: rest =>
    match opened with
    | [] => false
    | last :: opened => last == name && isNestedFrom opened rest
  | .text _ :: rest => isNestedFrom opened rest

/-- Whether the tags of a document are nested. -/
def isNested (m : Markup) : Bool := isNestedFrom [] m.events

/-- The events of a document that can be read to its end and whose tags are nested. -/
def nestedEvents? (text : String) : Option (List MarkupEvent) :=
  let m := ofText text.toList
  if m.complete && m.isNested then some m.events else none

end Markup

end SheetPress
