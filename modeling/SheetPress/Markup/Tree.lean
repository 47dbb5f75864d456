import SheetPress.Markup.Entity

/-!
# Markup as trees

Documents are written from trees, so what is written is nested. Texts and the values of attributes are
written with their entities; `MarkupNode.raw` is for markup that is at hand as text.
-/

namespace SheetPress

/-- A part of a document that is to be written. -/
inductive MarkupNode where
  | text (s : String)
  | raw (markup : String)
  | element (name : String) (values : List (String × String)) (children : List MarkupNode)

/-- An attribute as it is written, with the space in front of it. -/
def renderAttribute (name value : String) : String :=
  " " ++ name ++ "=\"" ++ encodeAttribute value ++ "\""

mutual

/-- The markup of a node. An element without children closes itself. -/
def MarkupNode.render : MarkupNode → String
  | .text s => encodeText s
  | .raw markup => markup
  | .element name values [] =>
    "<" ++ name ++ String.join (values.map fun (n, v) => renderAttribute n v) ++ "/>"
  | .element name values (child :: children) =>
    "<" ++ name ++ String.join (values.map fun (n, v) => renderAttribute n v) ++ ">"
      ++ (child.render ++ renderNodes children) ++ "</" ++ name ++ ">"

/-- The markup of nodes that follow one another. -/
def renderNodes : List MarkupNode → String
  | [] => ""
  | node :: rest => node.render ++ renderNodes rest

end

namespace MarkupNode

/-- An element without children. -/
def leaf (name : String) (values : List (String × String)) : MarkupNode := .element name values []

/-- An element that holds a list, with the length of the list. -/
def counted (name : String) (children : List MarkupNode) : MarkupNode :=
  .element name [("count", natText children.length)] children

end MarkupNode

/-- A document with its root element. -/
def renderDocument (root : MarkupNode) : String :=
  "<?xml version=\"1.0\" encoding=\"UTF-8\" standalone=\"yes\"?>\n" ++ root.render

end SheetPress
