import DocComment.Comment
import DocComment.Text.Lines
import DocComment.Text.Utf8

/-!
# Documentation files

A documentation file holds one `member` element per declaration. Each is written out on its own,
with the indentation of its inner lines kept.
-/

namespace DocComment

open Markup

/-- One member of a documentation file: its name, where it begins and its own text. -/
structure Member where
  name : String
  line : Option Nat
  xml : String
deriving DecidableEq, Repr

/-- The member that an element is. -/
def Member.ofElement (tree : Tree) (e : Element) : Member :=
  ⟨(e.attr? "name").getD "", tree.line? e, e.renderString⟩

/-- The members of a tree in document order; a member inside a member counts too. -/
def membersOfTree (tree : Tree) : List Member :=
  (tree.root.elements.filter (·.tag == rootTag)).map (Member.ofElement tree)

/-- The members of a documentation file. -/
def members (xml : String) : Except MarkupError (List Member) :=
  (parse xml false).map membersOfTree

/-- Why a documentation file could not be read. -/
inductive DocFileError where
  | undecodable (error : Text.Utf8.DecodeError)
  | malformed (error : MarkupError)

/-- The members of a documentation file given by its bytes. -/
def readMembers (bytes : List UInt8) : Except DocFileError (List Member) :=
  match Text.Utf8.decodeMarked bytes with
  | .error e => .error (.undecodable e)
  | .ok text => (members (String.ofList (Text.toLineFeeds text))).mapError .malformed

end DocComment
