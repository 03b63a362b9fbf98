/-!
# Markup trees

A tree of elements, comments and character data. Character data next to each other is one node, and
no node of character data is empty.
-/

namespace DocComment.Markup

/-- A place in a text: the line counts from one, the column from zero. -/
structure Position where
  line : Nat
  column : Nat
deriving DecidableEq, Repr

/-- The attributes of an element, in document order. -/
abbrev Attributes := List (String × String)

/-- A node of a markup tree; an element remembers where its tag was read, if it was read. -/
inductive Node where
  | text (value : String)
  | comment (value : String)
  | element (tag : String) (attrs : Attributes) (place : Option Position) (content : List Node)

instance : Inhabited Node := ⟨.text ""⟩

/-- The value of an attribute. -/
def Attributes.get? (attrs : Attributes) (name : String) : Option String :=
  attrs.lookup name

/-- An element of a markup tree. -/
structure Element where
  tag : String
  attrs : Attributes
  place : Option Position
  content : List Node

instance : Inhabited Element := ⟨⟨"", [], none, []⟩⟩

namespace Element

/-- The element as a node. -/
def toNode (e : Element) : Node :=
  .element e.tag e.attrs e.place e.content

/-- The value of an attribute. -/
def attr? (e : Element) (name : String) : Option String :=
  e.attrs.get? name

end Element

namespace Node

/-- The element that a node is. -/
def toElement? : Node → Option Element
  | element tag attrs place content => some ⟨tag, attrs, place, content⟩
  | _ => none

end Node

/-- The direct children of an element that have a tag, in document order. -/
def Element.childrenNamed (e : Element) (tag : String) : List Element :=
  (e.content.filterMap Node.toElement?).filter (·.tag == tag)

mutual

/-- The elements of a node, itself included, in document order. -/
def Node.elements : Node → List Element
  | .text _ => []
  | .comment _ => []
  | .element tag attrs place content => ⟨tag, attrs, place, content⟩ :: elementsOf content

/-- The elements of a list of nodes in document order. -/
def elementsOf : List Node → List Element
  | [] => []
  | n :: rest => n.elements ++ elementsOf rest

end

/-- The elements below and including an element, in document order. -/
def Element.elements (e : Element) : List Element :=
  e :: elementsOf e.content

end DocComment.Markup
