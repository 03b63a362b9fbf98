import DocComment.Yaml.Graph
import DocComment.Yaml.Token.Scanner

/-!
# Graphs from tokens

Reads the tokens of a text as one document. Block and flow collections nest; a key or a value may be
missing and is null then; a node may have a tag and an anchor in front of it.
-/

namespace DocComment.Yaml

/-- The state of the reader: the tokens that are left and what ends them, the nodes so far, the
anchors and what tag handles stand for. -/
structure Composer where
  tokens : List Token
  fault : Option LoadError
  graph : Graph := {}
  anchors : List (String × Nat) := []
  handles : List (String × String) := []

namespace Composer

/-- Reading with a state, which may fail. -/
abbrev M := StateT Composer (Except LoadError)

/-- Fails. -/
def fail {α : Type} (cause : Malformed) : M α :=
  throw (.malformed cause)

/-- The next token. -/
def peek : M Token := do
  match (← get).tokens, (← get).fault with
  | token :: _, _ => return token
  | [], some e => throw e
  | [], none => fail .unexpectedToken

/-- Passes over the next token. -/
def pop : M Unit :=
  modify fun s => { s with tokens := s.tokens.drop 1 }

/-- Passes over the next token if it is the given one, and says whether it was. -/
def accept (token : Token) : M Bool := do
  if (← peek) = token then
    pop
    return true
  else return false

/-- Requires a token. -/
def expect (token : Token) : M Unit := do
  if !(← accept token) then fail .unexpectedToken

/-- Adds a node and gives it its anchor; no anchor may be given twice. -/
def addNode (anchor : Option String) (n : Node) : M Nat := do
  let s ← get
  let (graph, id) := s.graph.add n
  match anchor with
  | none => set { s with graph }
  | some name =>
    if (s.anchors.lookup name).isSome then fail .repeatedAnchor
    else set { s with graph, anchors := (name, id) :: s.anchors }
  return id

/-- Completes a node. -/
def setNode (id : Nat) (n : Node) : M Unit :=
  modify fun s => { s with graph := s.graph.set id n }

/-- A missing node. -/
def emptyNode : M Nat :=
  addNode none (.scalar .null [])

/-- The tag that a written tag stands for; the tag `!` stands for none. -/
def resolveTag (handle : Option String) (suffix : String) : M (Option String) := do
  let full ← match handle with
    | none => pure suffix
    | some handle =>
      match (← get).handles.lookup handle with
      | some expansion => pure (expansion ++ suffix)
      | none => fail .undefinedHandle
  return some full

/-- Reads the anchor and the tag in front of a node, in either order. -/
def properties : M (Option String × Option String) := do
  match ← peek with
  | .anchor name =>
    pop
    match ← peek with
    | .tag handle suffix =>
      pop
      return (some name, ← resolveTag handle suffix)
    | _ => return (some name, none)
  | .tag handle suffix =>
    pop
    match ← peek with
    | .anchor name =>
      pop
      return (some name, ← resolveTag handle suffix)
    | _ => return (none, ← resolveTag handle suffix)
  | _ => return (none, none)

/-- The tag of a scalar: its own, or else the one of its form if it is plain or has the tag `!`. -/
def scalarTag (tag : Option String) (text : Text.CodePoints) (isPlain : Bool) : Tag :=
  match tag with
  | none => if isPlain then Tag.ofForm (String.ofList text.toChars) else .str
  | some "!" => Tag.ofForm (String.ofList text.toChars)
  | some tag => Tag.ofString tag

/-- The tag of a collection: its own, or else the usual one. -/
def collectionTag (tag : Option String) (usual : Tag) : Tag :=
  match tag with
  | none => usual
  | some "!" => usual
  | some tag => Tag.ofString tag

/-- Whether a token ends an entry of a block mapping. -/
def endsBlockEntry : Token → Bool
  | .key => true
  | .value => true
  | .blockEnd => true
  | _ => false

mutual

/-- Reads a node. Block collections are read where `block` allows, and a block sequence that is not
indented where `indentless` allows. -/
def node : (fuel : Nat) → (block indentless : Bool) → M Nat
  | 0, _, _ => fail .unexpectedToken
  | fuel + 1, block, indentless => do
    match ← peek with
    | .alias name =>
      pop
      match (← get).anchors.lookup name with
      | some id => return id
      | none => fail .undefinedAlias
    | _ =>
      let (anchor, tag) ← properties
      let sequence (items : M (List Nat)) : M Nat := do
        let tag := collectionTag tag .seq
        let id ← addNode anchor (.sequence tag [])
        let items ← items
        setNode id (.sequence tag items)
        return id
      let mapping (entries : M (List (Nat × Nat))) : M Nat := do
        let tag := collectionTag tag .map
        let id ← addNode anchor (.mapping tag [])
        let entries ← entries
        setNode id (.mapping tag entries)
        return id
      let token ← peek
      if indentless && token = .blockEntry then sequence (indentlessItems fuel)
      else
        match token with
        | .scalar text isPlain =>
          pop
          addNode anchor (.scalar (scalarTag tag text isPlain) text)
        | .flowSequenceStart =>
          pop
          sequence (flowItems fuel true)
        | .flowMappingStart =>
          pop
          mapping (flowEntries fuel true)
        | _ =>
          if block && token = .blockSequenceStart then
            pop
            sequence (blockItems fuel)
          else if block && token = .blockMappingStart then
            pop
            mapping (blockEntries fuel)
          else if anchor.isSome || tag.isSome then
            addNode anchor (.scalar (scalarTag tag [] true) [])
          else fail .unexpectedToken

/-- Reads the items of a block sequence. -/
def blockItems : (fuel : Nat) → M (List Nat)
  | 0 => fail .unexpectedToken
  | fuel + 1 => do
    if ← accept .blockEntry then
      let next ← peek
      let item ← if next = .blockEntry || next = .blockEnd then emptyNode else node fuel true false
      return item :: (← blockItems fuel)
    else
      expect .blockEnd
      return []

/-- Reads the items of a block sequence that is not indented. -/
def indentlessItems : (fuel : Nat) → M (List Nat)
  | 0 => fail .unexpectedToken
  | fuel + 1 => do
    if ← accept .blockEntry then
      let next ← peek
      let item ←
        if next = .blockEntry || endsBlockEntry next then emptyNode else node fuel true false
      return item :: (← indentlessItems fuel)
    else return []

/-- Reads the entries of a block mapping. -/
def blockEntries : (fuel : Nat) → M (List (Nat × Nat))
  | 0 => fail .unexpectedToken
  | fuel + 1 => do
    let next ← peek
    if next = .key then
      pop
      let key ← if endsBlockEntry (← peek) then emptyNode else node fuel true true
      let value ← blockValue fuel
      return (key, value) :: (← blockEntries fuel)
    else
      expect .blockEnd
      return []

/-- Reads the value of an entry of a block mapping. -/
def blockValue : (fuel : Nat) → M Nat
  | 0 => fail .unexpectedToken
  | fuel + 1 => do
    if ← accept .value then
      if endsBlockEntry (← peek) then emptyNode else node fuel true true
    else emptyNode

/-- Reads the items of a flow sequence; an item may be a mapping of one entry without braces. -/
def flowItems : (fuel : Nat) → (isFirst : Bool) → M (List Nat)
  | 0, _ => fail .unexpectedToken
  | fuel + 1, isFirst => do
    if ← accept .flowSequenceEnd then return []
    else
      if !isFirst then expect .flowEntry
      let next ← peek
      if next = .key then
        pop
        let id ← addNode none (.mapping .map [])
        let ahead ← peek
        let key ←
          if ahead = .value || ahead = .flowEntry || ahead = .flowSequenceEnd then emptyNode
          else node fuel false false
        let value ← flowValue fuel .flowSequenceEnd
        setNode id (.mapping .map [(key, value)])
        return id :: (← flowItems fuel false)
      else if next = .flowSequenceEnd then
        pop
        return []
      else
        let item ← node fuel false false
        return item :: (← flowItems fuel false)

/-- Reads the value of an entry in a flow collection that ends with a token. -/
def flowValue : (fuel : Nat) → Token → M Nat
  | 0, _ => fail .unexpectedToken
  | fuel + 1, closing => do
    if ← accept .value then
      let ahead ← peek
      if ahead = .flowEntry || ahead = closing then emptyNode else node fuel false false
    else emptyNode

/-- Reads the entries of a flow mapping; an entry may be a key alone. -/
def flowEntries : (fuel : Nat) → (isFirst : Bool) → M (List (Nat × Nat))
  | 0, _ => fail .unexpectedToken
  | fuel + 1, isFirst => do
    if ← accept .flowMappingEnd then return []
    else
      if !isFirst then expect .flowEntry
      let next ← peek
      if next = .key then
        pop
        let ahead ← peek
        let key ←
          if ahead = .value || ahead = .flowEntry || ahead = .flowMappingEnd then emptyNode
          else node fuel false false
        let value ← flowValue fuel .flowMappingEnd
        return (key, value) :: (← flowEntries fuel false)
      else if next = .flowMappingEnd then
        pop
        return []
      else
        let key ← node fuel false false
        let value ← emptyNode
        return (key, value) :: (← flowEntries fuel false)

end

/-! ## Documents -/

/-- What the two usual tag handles stand for. -/
def usualHandles : List (String × String) :=
  [("!", "!"), ("!!", Tag.core)]

/-- Reads the directives before a document: at most one version, which must be 1, and tag handles.
-/
def directives : (fuel : Nat) → (hasVersion : Bool) → (handles : List (String × String)) → M Unit
  | 0, _, _ => fail .unexpectedToken
  | fuel + 1, hasVersion, handles => do
    match ← peek with
    | .versionDirective major _ =>
      pop
      if hasVersion then fail .repeatedDirective
      else if major ≠ 1 then fail .incompatibleVersion
      else directives fuel true handles
    | .tagDirective handle expansion =>
      pop
      if (handles.lookup handle).isSome then fail .repeatedDirective
      else directives fuel hasVersion ((handle, expansion) :: handles)
    | .otherDirective =>
      pop
      directives fuel hasVersion handles
    | _ => modify fun s => { s with handles := handles ++ usualHandles }

/-- Whether a token is a directive. -/
def isDirective : Token → Bool
  | .versionDirective _ _ => true
  | .tagDirective _ _ => true
  | .otherDirective => true
  | _ => false

/-- Reads the content of a document after its opening mark. -/
def content (fuel : Nat) : M Nat := do
  let next ← peek
  if isDirective next || next = .documentStart || next = .documentEnd || next = .streamEnd then
    emptyNode
  else node fuel true false

/-- Passes over marks that end documents. -/
def skipDocumentEnds : (fuel : Nat) → M Unit
  | 0 => return
  | fuel + 1 => do
    if ← accept .documentEnd then skipDocumentEnds fuel

/-- Reads the one document of a text, if there is one: the number of its root. Another document may
not follow; one that does is read up to its opening mark. -/
def document (fuel : Nat) : M (Option Nat) := do
  let first ← peek
  if first = .streamEnd then return none
  else
    let root ←
      if isDirective first || first = .documentStart then do
        directives fuel false []
        expect .documentStart
        content fuel
      else do
        modify fun s => { s with handles := usualHandles }
        node fuel true false
    skipDocumentEnds fuel
    if (← peek) = .streamEnd then return some root
    else
      directives fuel false []
      expect .documentStart
      fail .severalDocuments

end Composer

/-- The graph of the document that a text holds, with the number of its root if it has one. -/
def graphOf (source : Source) : Except LoadError (Graph × Option Nat) := do
  let (tokens, fault) := tokensOf source
  let (root, state) ← (Composer.document (3 * tokens.length + 10)).run { tokens, fault }
  return (state.graph, root)

end DocComment.Yaml
