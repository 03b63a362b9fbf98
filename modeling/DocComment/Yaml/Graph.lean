import DocComment.Text.CodePoints
import DocComment.Yaml.Tag

/-!
# Node graphs

What a YAML document says before its scalars are read as values: nodes that refer to each other by
number. An alias makes two nodes refer to the same one, so a graph may have cycles.
-/

namespace DocComment.Yaml

/-- A node of a document; it refers to other nodes by their numbers. -/
inductive Node where
  | scalar (tag : Tag) (text : Text.CodePoints)
  | sequence (tag : Tag) (items : List Nat)
  | mapping (tag : Tag) (entries : List (Nat × Nat))
deriving Repr

instance : Inhabited Node := ⟨.scalar .null []⟩

/-- The tag of a node. -/
def Node.tag : Node → Tag
  | scalar tag _ => tag
  | sequence tag _ => tag
  | mapping tag _ => tag

/-- The nodes of a document, the first with number zero. -/
structure Graph where
  nodes : List Node := []

namespace Graph

/-- The node with a number. -/
def node (g : Graph) (id : Nat) : Node :=
  (g.nodes[id]?).getD default

/-- Adds a node; its number is the number of nodes before it. -/
def add (g : Graph) (n : Node) : Graph × Nat :=
  (⟨g.nodes ++ [n]⟩, g.nodes.length)

/-- Changes the node with a number. -/
def set (g : Graph) (id : Nat) (n : Node) : Graph :=
  ⟨g.nodes.set id n⟩

end Graph

end DocComment.Yaml
