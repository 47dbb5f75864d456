import SheetPress.Markup.Entity
import SheetPress.Text.Encoding

/-!
# Tags

An opening tag has a name and attributes. Attributes are read one by one; a malformed one does not
keep those behind it from being read, and of attributes with one name only the first is well formed.
`MarkupTag.value?` passes over what is malformed, `MarkupTag.written?` reports it.
-/

namespace SheetPress

/-- White space in markup. -/
def isMarkupSpace (c : Char) : Bool := c = ' ' || c = '\r' || c = '\n' || c = '\t'

/-- An opening tag: its name and the text of its attributes, with the encoding that the document has
declared in front of it. -/
structure MarkupTag where
  name : List Char
  attributeText : List Char
  encoding : Encoding := .utf8
  deriving DecidableEq, Repr, Inhabited

/-- A name without the qualifier in front of a colon. -/
def localName (name : List Char) : List Char :=
  match splitAtFirst? [':'] name with
  | some (_, behind) => behind
  | none => name

/-- Whether a name is the given one. -/
def isNamed (name : List Char) (expected : String) : Bool := name == expected.toList

/-- An attribute with the text of its value. -/
structure Attribute where
  name : List Char
  value : List Char
  deriving DecidableEq, Repr

/-- The text from the first white space on. -/
def afterWord (text : List Char) : List Char := text.dropWhile (! isMarkupSpace ·)

/-- What reading one attribute gives: the attribute, or nothing if it is malformed, the names seen so
far, and the text behind. -/
structure AttributeStep where
  found : Option Attribute
  seen : List (List Char)
  rest : List Char

/-- The value behind the equals sign of an attribute. -/
def attributeValue (seen : List (List Char)) (name behind : List Char) : AttributeStep :=
  match behind.dropWhile isMarkupSpace with
  | [] => ⟨none, seen, []⟩
  | quote :: rest =>
    if quote = '"' ∨ quote = '\'' then
      match splitAtFirst? [quote] rest with
      | some (value, rest) => ⟨some ⟨name, value⟩, seen, rest⟩
      | none => ⟨none, seen, []⟩
    else ⟨none, seen, afterWord rest⟩

/-- Characters of the name of an attribute, but for the first one. -/
def inAttributeName (c : Char) : Bool := c ≠ '=' && !isMarkupSpace c

/-- Reads an attribute with a name, from the text behind the name on. -/
def namedAttribute (seen : List (List Char)) (name text : List Char) : AttributeStep :=
  match text.dropWhile isMarkupSpace with
  | [] => ⟨none, seen, []⟩
  | c :: behind =>
    if c ≠ '=' then ⟨none, seen, c :: behind⟩
    else if name ∈ seen then ⟨none, seen, afterWord behind⟩
    else attributeValue (name :: seen) name behind

/-- Reads the attribute that begins with a character. -/
def readAttribute (seen : List (List Char)) (first : Char) (text : List Char) : AttributeStep :=
  namedAttribute seen (first :: text.takeWhile inAttributeName) (text.dropWhile inAttributeName)

theorem length_splitAtFirst?_lt {c : Char} {text front behind : List Char}
    (h : splitAtFirst? [c] text = some (front, behind)) : behind.length < text.length := by
  induction text generalizing front with
  | nil => simp [splitAtFirst?] at h
  | cons d rest ih =>
    simp only [splitAtFirst?] at h
    split at h
    · rename_i hd
      simp only [Option.some.injEq, Prod.mk.injEq] at h
      obtain ⟨-, rfl⟩ := h
      unfold dropLead? at hd
      split at hd
      · cases hd
        simp
      · cases hd
    · simp only [Option.map_eq_some_iff, Prod.mk.injEq, Prod.exists] at h
      obtain ⟨front', behind', h, -, rfl⟩ := h
      have := ih h
      simp only [List.length_cons]
      omega

theorem attributeValue_length_le (seen : List (List Char)) (name behind : List Char) :
    (attributeValue seen name behind).rest.length ≤ behind.length := by
  unfold attributeValue
  have hd := length_dropWhile_le isMarkupSpace behind
  split
  · simp
  · rename_i quote rest heq
    rw [heq] at hd
    simp only [List.length_cons] at hd
    split
    · split
      · rename_i value rest' hs
        have := length_splitAtFirst?_lt hs
        simp only
        omega
      · simp
    · have := length_dropWhile_le (! isMarkupSpace ·) rest
      simp only [afterWord]
      omega

theorem namedAttribute_length_le (seen : List (List Char)) (name text : List Char) :
    (namedAttribute seen name text).rest.length ≤ text.length := by
  unfold namedAttribute
  have h := length_dropWhile_le isMarkupSpace text
  split
  · simp
  · rename_i c behind heq
    rw [heq] at h
    simp only [List.length_cons] at h
    split
    · simpa using h
    · split
      · have := length_dropWhile_le (! isMarkupSpace ·) behind
        simp only [afterWord]
        omega
      · have := attributeValue_length_le (name :: seen) name behind
        omega

theorem readAttribute_length_le (seen : List (List Char)) (first : Char) (text : List Char) :
    (readAttribute seen first text).rest.length ≤ text.length :=
  Nat.le_trans (namedAttribute_length_le _ _ _) (length_dropWhile_le _ _)

/-- The attributes in a text, with nothing in the place of malformed ones. `seen` are the names that
may not come again; with `distinct` off, names may repeat. -/
def attributesFrom (distinct : Bool) (seen : List (List Char)) (text : List Char) :
    List (Option Attribute) :=
  match h : text.dropWhile isMarkupSpace with
  | [] => []
  | first :: rest =>
    have : (readAttribute seen first rest).rest.length < text.length := by
      have h₁ := readAttribute_length_le seen first rest
      have h₂ := length_dropWhile_le isMarkupSpace text
      rw [h] at h₂
      simp only [List.length_cons] at h₂
      omega
    (readAttribute seen first rest).found
      :: attributesFrom distinct (if distinct then (readAttribute seen first rest).seen else [])
        (readAttribute seen first rest).rest
termination_by text.length

/-- The text of the first attribute with a name, where a malformed attribute in front of it makes
everything unreadable. -/
def writtenIn? (name : String) : List (Option Attribute) → Option (Option (List Char))
  | [] => some none
  | none :: _ => none
  | some a :: rest => if isNamed a.name name then some (some a.value) else writtenIn? name rest

namespace MarkupTag

/-- The name of a tag without its qualifier. -/
def localName (t : MarkupTag) : List Char := SheetPress.localName t.name

/-- The attributes of a tag, with nothing in the place of malformed ones. -/
def attributes (t : MarkupTag) : List (Option Attribute) := attributesFrom true [] t.attributeText

/-- The attributes of a tag, none of which is malformed. -/
def allAttributes? (t : MarkupTag) : Option (List Attribute) := t.attributes.mapM id

/-- The well-formed attributes of a tag. -/
def wellFormed (t : MarkupTag) : List Attribute := t.attributes.filterMap id

/-- The value of an attribute. Malformed attributes are passed over, and a value with an unknown
entity counts as missing. -/
def value? (t : MarkupTag) (name : String) : Option String := do
  let found ← t.wellFormed.find? (isNamed ·.name name)
  (decodeEntities? found.value).map String.ofList

/-- The text of an attribute with its entities, if there is one; nothing at all if a malformed
attribute comes first. -/
def written? (t : MarkupTag) (name : String) : Option (Option (List Char)) :=
  writtenIn? name t.attributes

/-- The text of an attribute in the encoding of the document, with its entities replaced. -/
def decoded? (t : MarkupTag) (value : List Char) : Option (List Char) :=
  (t.encoding.redecode? value).bind decodeEntities?

end MarkupTag

end SheetPress
