import DocComment.Markup.Node

/-!
# Markup trees as text

An element without content is written as one self-closed tag with a blank before the slash;
attributes stand between double quotes in stored order. Character data escapes `&`, `<` and `>`;
attribute values also escape the double quote and the three layout characters that reading would
turn into blanks. Comments are written as they are.
-/

namespace DocComment.Markup

/-- A character of character data as written. -/
def escapeTextChar : Char → List Char
  | '&' => "&amp;".toList
  | '<' => "&lt;".toList
  | '>' => "&gt;".toList
  | c => [c]

/-- Character data as written. -/
def escapeText (s : List Char) : List Char :=
  s.flatMap escapeTextChar

/-- A character of an attribute value as written. -/
def escapeAttrChar : Char → List Char
  | '&' => "&amp;".toList
  | '<' => "&lt;".toList
  | '>' => "&gt;".toList
  | '"' => "&quot;".toList
  | '\r' => "&#13;".toList
  | '\n' => "&#10;".toList
  | '\t' => "&#09;".toList
  | c => [c]

/-- An attribute value as written. -/
def escapeAttr (s : List Char) : List Char :=
  s.flatMap escapeAttrChar

/-- The attributes of a tag as written, each after a blank. -/
def renderAttrs (attrs : Attributes) : List Char :=
  attrs.flatMap fun (name, value) =>
    ' ' :: name.toList ++ ['=', '"'] ++ escapeAttr value.toList ++ ['"']

mutual

/-- A node as written. -/
def Node.render : Node → List Char
  | .text value => escapeText value.toList
  | .comment value => "<!--".toList ++ value.toList ++ "-->".toList
  | .element tag attrs _ content =>
    '<' :: tag.toList ++ renderAttrs attrs ++
      (match content with
        | [] => " />".toList
        | n :: rest =>
          '>' :: n.render ++ renderNodes rest ++ "</".toList ++ tag.toList ++ ['>'])

/-- A list of nodes as written. -/
def renderNodes : List Node → List Char
  | [] => []
  | n :: rest => n.render ++ renderNodes rest

end

/-- An element as written. -/
def Element.render (e : Element) : List Char :=
  e.toNode.render

/-- The content of an element as written, without its own tags. -/
def Element.renderContent (e : Element) : List Char :=
  renderNodes e.content

/-- An element as a string. -/
def Element.renderString (e : Element) : String :=
  String.ofList e.render

end DocComment.Markup
