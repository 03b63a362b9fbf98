import DocComment.Yaml.Graph.Grammar
import DocComment.Yaml.Scalar

/-!
# Values of documents

Reads the nodes of a graph as values. Collections are read one after the other in the order in which
they are met, each once, so a graph with cycles is read as well as one without. A mapping first
takes over the entries that its merge keys offer.
-/

namespace DocComment.Yaml

/-- The value of a node. -/
inductive Value where
  | scalar (value : Scalar)
  | list (items : List Value)
  | map (entries : List (Value × Value))
  | set (members : List Value)
  /-- A value that lies deeper than was asked for. -/
  | elided

namespace Value

/-- Whether a value is a text. -/
def isText (v : Value) (s : String) : Bool :=
  match v with
  | scalar (.text t) => t == s
  | _ => false

/-- The value of a key in a mapping; the last entry counts. -/
def get? (v : Value) (key : String) : Option Value :=
  match v with
  | map entries => (entries.reverse.find? fun (k, _) => k.isText key).map (·.2)
  | _ => none

end Value

namespace Graph

/-! ## Merging -/

/-- The entries of a mapping. -/
def entries (g : Graph) (id : Nat) : List (Nat × Nat) :=
  match g.node id with
  | .mapping _ entries => entries
  | _ => []

/-- Changes the entries of a mapping. -/
def setEntries (g : Graph) (id : Nat) (entries : List (Nat × Nat)) : Graph :=
  match g.node id with
  | .mapping tag _ => g.set id (.mapping tag entries)
  | _ => g

/-- Whether a node is a mapping. -/
def isMapping (g : Graph) (id : Nat) : Bool :=
  match g.node id with
  | .mapping _ _ => true
  | _ => false

/-- Gives a node that marks a default value the type of a text. -/
def asText (g : Graph) (id : Nat) : Graph :=
  match g.node id with
  | .scalar _ text => g.set id (.scalar .str text)
  | .sequence _ items => g.set id (.sequence .str items)
  | .mapping _ entries => g.set id (.mapping .str entries)

/-- Replaces the merge keys of a mapping from an entry on by the entries that they offer, which come
before its own; of several mappings the first comes last. Offered mappings are treated in the same
way first. -/
def flatten : (fuel : Nat) → Graph → (id index : Nat) → (offered : List (Nat × Nat)) →
    Except LoadError Graph
  | 0, g, _, _, _ => .ok g
  | fuel + 1, g, id, index, offered =>
    let entries := g.entries id
    match entries[index]? with
    | none => .ok (if offered.isEmpty then g else g.setEntries id (offered ++ entries))
    | some (key, value) =>
      match (g.node key).tag with
      | .merge =>
        let g := g.setEntries id (entries.eraseIdx index)
        match g.node value with
        | .mapping _ _ => do
          let g ← flatten fuel g value 0 []
          flatten fuel g id index (offered ++ g.entries value)
        | .sequence _ items => do
          let (g, taken) ← items.foldlM (fun (acc : Graph × List (List (Nat × Nat))) item => do
            if !acc.1.isMapping item then malformed .unmergeable
            else
              let g ← flatten fuel acc.1 item 0 []
              return (g, g.entries item :: acc.2)) (g, [])
          flatten fuel g id index (offered ++ taken.flatten)
        | .scalar _ _ => malformed .unmergeable
      | .value => flatten fuel (g.asText key) id (index + 1) offered
      | _ => flatten fuel g id (index + 1) offered

/-- How many entries and nodes a graph has. -/
def size (g : Graph) : Nat :=
  g.nodes.foldr (fun node n =>
    match node with
    | .mapping _ entries => entries.length + 1 + n
    | _ => 1 + n) 0

/-! ## Reading -/

/-- The text of a node that must be a scalar; a mapping stands for its default value. -/
def scalarText (g : Graph) : (fuel : Nat) → (id : Nat) → Except LoadError Text.CodePoints
  | 0, _ => malformed .wrongKind
  | fuel + 1, id =>
    match g.node id with
    | .scalar _ text => .ok text
    | .sequence _ _ => malformed .wrongKind
    | .mapping _ entries =>
      match entries.find? fun (key, _) => (g.node key).tag = .value with
      | some (_, value) => scalarText g fuel value
      | none => malformed .wrongKind

/-- The scalar that a node is. -/
def scalar (g : Graph) (id : Nat) : Except LoadError Scalar := do
  let text ← g.scalarText (g.nodes.length + 1) id
  Scalar.read (g.node id).tag text

/-- Whether nodes with a tag are collections. -/
def isCollection : Tag → Bool
  | .seq => true
  | .map => true
  | .set => true
  | .omap => true
  | .pairs => true
  | _ => false

/-- Meets a node: a scalar is read, a collection is left for later. The result holds the collections
to read. -/
def meet (g : Graph) (id : Nat) : Except LoadError (List Nat) :=
  if isCollection (g.node id).tag then .ok [id]
  else do
    let _ ← g.scalar id
    return []

/-- Meets the key and the value of an entry; a collection cannot be a key. -/
def meetEntry (g : Graph) (entry : Nat × Nat) : Except LoadError (List Nat) := do
  let _ ← g.meet entry.1
  if isCollection (g.node entry.1).tag then malformed .unhashableKey
  else g.meet entry.2

/-- Meets the one entry of an item of an ordered mapping. -/
def meetPair (g : Graph) (item : Nat) : Except LoadError (List Nat) :=
  match g.node item with
  | .mapping _ [(key, value)] => do
    let first ← g.meet key
    let second ← g.meet value
    return first ++ second
  | _ => malformed .wrongKind

/-- Reads a collection: the graph with its merge keys replaced, and the collections met in it. -/
def readCollection (g : Graph) (id : Nat) : Except LoadError (Graph × List Nat) :=
  match (g.node id).tag, g.node id with
  | .seq, .sequence _ items => do
    let found ← items.mapM g.meet
    return (g, found.flatten)
  | .map, .mapping _ _ | .set, .mapping _ _ => do
    let g ← g.flatten (2 * g.size + 2) id 0 []
    let found ← (g.entries id).mapM g.meetEntry
    return (g, found.flatten)
  | .omap, .sequence _ items | .pairs, .sequence _ items => do
    let found ← items.mapM g.meetPair
    return (g, found.flatten)
  | _, _ => malformed .wrongKind

/-- Reads the collections that wait, and those that are met in them, each once; `fuel` bounds their
number. -/
def readAll : (fuel : Nat) → Graph → (waiting done : List Nat) → Except LoadError Graph
  | 0, g, _, _ => .ok g
  | _ + 1, g, [], _ => .ok g
  | fuel + 1, g, id :: waiting, done =>
    if done.contains id then readAll fuel g waiting done
    else
      match g.readCollection id with
      | .error e => .error e
      | .ok (g, found) => readAll fuel g (waiting ++ found) (id :: done)

/-- The value of a node that has been read, as deep as `depth` says. -/
def value (g : Graph) : (depth : Nat) → (id : Nat) → Value
  | 0, _ => .elided
  | depth + 1, id =>
    match (g.node id).tag, g.node id with
    | .seq, .sequence _ items => .list (items.map (g.value depth))
    | .map, .mapping _ entries =>
      .map (entries.map fun (k, v) => (g.value depth k, g.value depth v))
    | .set, .mapping _ entries => .set (entries.map fun (k, _) => g.value depth k)
    | .omap, .sequence _ items => .list (items.map (g.value depth))
    | .pairs, .sequence _ items => .list (items.map (g.value depth))
    | _, _ =>
      match g.scalar id with
      | .ok value => .scalar value
      | .error _ => .elided

end Graph

/-- The value of the document that a text holds, as deep as `depth` says; a text without a document
is null. -/
def load (depth : Nat) (source : Source) : Except LoadError Value := do
  let (g, root) ← graphOf source
  match root with
  | none => return .scalar .null
  | some root =>
    let first ← g.meet root
    let g ← g.readAll ((g.size + 1) * (g.size + 2)) first []
    return g.value depth root

end DocComment.Yaml
