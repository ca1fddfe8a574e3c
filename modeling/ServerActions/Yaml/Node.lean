import ServerActions.Yaml.Tag
import ServerActions.Yaml.Token

/-!
# Nodes of a YAML text

The graph that the tokens of a text denote: scalars, sequences and mappings, each with the kind of
its value.  The parts of a sequence or a mapping are given by their numbers, so that a node with a
name can stand in several places, even inside itself.

## Main definitions

* `Content`, `Node`, `Graph` — what a node holds, a node, and the nodes of a text.
* `Composing` — the tokens still to be read with the names given so far.
* `node` — the grammar.
* `Graph.ofText?` — the graph of a text, or nothing for a text without any node.
-/

namespace ServerActions.Yaml

/-- What a node holds: a text, or the numbers of other nodes. -/
inductive Content
  | scalar (text : String)
  | sequence (items : List Nat)
  | mapping (entries : List (Nat × Nat))
  deriving DecidableEq, Repr, Inhabited

/-- A node: the kind of its value, and what it holds. -/
structure Node where
  tag : Tag
  content : Content
  deriving DecidableEq, Repr, Inhabited

/-- The node of a text without any character. -/
def Node.empty : Node := ⟨.null, .scalar ""⟩

/-- The nodes of a text, of which one is the root. -/
structure Graph where
  nodes : Array Node
  root : Nat
  deriving Repr

/-- The tokens still to be read, the fault that ends them, and the names and handles given so
far. -/
structure Composing where
  tokens : List Token
  fault : Option Fault
  /-- The nodes found so far; of a collection that is still being read only the kind counts. -/
  nodes : Array Node
  /-- The numbers of the nodes with names. -/
  anchors : List (String × Nat)
  /-- The texts that handles of tags stand for. -/
  handles : List (String × String)
  /-- How many collections are still being read. -/
  depth : Nat

/-- A step that reads tokens. -/
abbrev Compose := StateT Composing (Except Fault)

/-- The next token, or nothing at the end of the text. -/
def peek : Compose (Option Token) := do
  let s ← get
  match s.tokens, s.fault with
  | t :: _, _ => return some t
  | [], some f => throw f
  | [], none => return none

/-- The place after the next token. -/
def advance : Compose Unit :=
  modify fun s => { s with tokens := s.tokens.tail }

/-- Whether the next token is `t`; then it is read. -/
def accept (t : Token) : Compose Bool := do
  if (← peek) = some t then
    advance
    return true
  return false

/-- Reads the token `t`. -/
def expect (t : Token) : Compose Unit := do
  if !(← accept t) then throw .malformed

/-! ### Adding nodes -/

/-- Adds a node, with its name if it has one. -/
def add (anchor : Option String) (n : Node) : Compose Nat := do
  let s ← get
  let i := s.nodes.size
  set { s with nodes := s.nodes.push n, anchors := anchor.toList.map (·, i) ++ s.anchors }
  return i

/-- How many collections may lie inside one another. -/
def maxDepth : Nat := 480

/-- Adds a collection, whose name can be used already in its own parts. -/
def addCollection (anchor : Option String) (tag : Tag) (parts : Compose Content) :
    Compose Nat := do
  if maxDepth ≤ (← get).depth then throw .tooDeep
  let i ← add anchor { Node.empty with tag }
  modify fun s => { s with depth := s.depth + 1 }
  let content ← parts
  modify fun s => { s with depth := s.depth - 1, nodes := s.nodes.setIfInBounds i ⟨tag, content⟩ }
  return i

/-- The node that `read` reads, or the empty one before one of some tokens. -/
def nodeUnless (stops : List Token) (read : Compose Nat) : Compose Nat := do
  match ← peek with
  | some t => if stops.contains t then add none .empty else read
  | none => read

/-! ### Names and tags -/

/-- What may stand before a node: its name and its tag, in either order. -/
structure Decoration where
  anchor : Option String
  tag : Option (Option String × String)

/-- The name at a place, if there is one. -/
def anchor? : Compose (Option String) := do
  match ← peek with
  | some (.anchor name) =>
    advance
    return some name
  | _ => return none

/-- The tag at a place, if there is one. -/
def tag? : Compose (Option (Option String × String)) := do
  match ← peek with
  | some (.tag handle suffix) =>
    advance
    return some (handle, suffix)
  | _ => return none

/-- What stands before a node. -/
def decoration : Compose Decoration := do
  match ← anchor? with
  | some name => return ⟨some name, ← tag?⟩
  | none =>
    match ← tag? with
    | none => return ⟨none, none⟩
    | some tag => return ⟨← anchor?, some tag⟩

/-- The text of a tag that leaves the kind open. -/
def openTag : String := "!"

/-- The text of a tag, or nothing where the kind is left open. -/
def fullTag (tag : Option (Option String × String)) : Compose (Option String) := do
  match tag with
  | none => return none
  | some (none, suffix) => return some suffix
  | some (some handle, suffix) =>
    match (← get).handles.lookup handle with
    | some start => return some (start ++ suffix)
    | none => throw .malformed

/-- The kind that a tag names, or `implied` where it names none. -/
def tagOr (tag : Option String) (implied : Tag) : Tag :=
  match tag with
  | none => implied
  | some t => if t = openTag then implied else .ofText t

/-- The kind of a scalar: a text that is quoted and has no tag is a text. -/
def scalarTag (tag : Option String) (text : String) (plain : Bool) : Tag :=
  if tag.isNone && !plain then .str else tagOr tag (.implied text.toList)

/-- Adds the empty node of a place where only a name or a tag stands. -/
def addBare (anchor tag : Option String) : Compose Nat := do
  if anchor.isNone && tag.isNone then throw .malformed
  add anchor ⟨tagOr tag .null, .scalar ""⟩

/-- Refuses a name that is given already. -/
def checkNew (anchor : Option String) : Compose Unit := do
  if let some name := anchor then
    if ((← get).anchors.lookup name).isSome then throw .malformed

/-- The node of a name. -/
def named (name : String) : Compose Nat := do
  match (← get).anchors.lookup name with
  | some i => return i
  | none => throw .malformed

/-! ### The grammar -/

/-- Where a node stands: in a flow collection, in a block, or after a key of a block, where the
items of a sequence need not be indented. -/
inductive Position
  | flow
  | block
  | entry
  deriving DecidableEq, Repr

mutual
/-- The node at a place.  The first argument bounds the depth and the length of what is read. -/
def node : Nat → Position → Compose Nat
  | 0, _ => throw .malformed
  | bound + 1, position => do
    if let some (.alias name) ← peek then
      advance
      return ← named name
    let d ← decoration
    let tag ← fullTag d.tag
    let next ← peek
    checkNew d.anchor
    let listTag := tagOr tag .list
    let mapTag := tagOr tag .map
    match next with
    | some (.scalar text plain) =>
      advance
      add d.anchor ⟨scalarTag tag text plain, .scalar text⟩
    | some .flowSequence =>
      advance
      addCollection d.anchor listTag (.sequence <$> flowItems bound true)
    | some .flowMapping =>
      advance
      addCollection d.anchor mapTag (.mapping <$> flowEntries bound true)
    | some .blockEntry =>
      if position ≠ .entry then addBare d.anchor tag
      else addCollection d.anchor listTag (.sequence <$> openItems bound)
    | some .blockSequence =>
      if position = .flow then addBare d.anchor tag
      else
        advance
        addCollection d.anchor listTag (.sequence <$> blockItems bound)
    | some .blockMapping =>
      if position = .flow then addBare d.anchor tag
      else
        advance
        addCollection d.anchor mapTag (.mapping <$> blockEntries bound)
    | _ => addBare d.anchor tag

/-- The items of a block up to its end. -/
def blockItems : Nat → Compose (List Nat)
  | 0 => throw .malformed
  | bound + 1 => do
    if ← accept .blockEntry then
      let n ← nodeUnless [.blockEntry, .blockEnd] (node bound .block)
      return n :: (← blockItems bound)
    expect .blockEnd
    return []

/-- The items of a sequence that is not indented. -/
def openItems : Nat → Compose (List Nat)
  | 0 => throw .malformed
  | bound + 1 => do
    if ← accept .blockEntry then
      let n ← nodeUnless [.blockEntry, .key, .value, .blockEnd] (node bound .block)
      return n :: (← openItems bound)
    return []

/-- The entries of a block up to its end. -/
def blockEntries : Nat → Compose (List (Nat × Nat))
  | 0 => throw .malformed
  | bound + 1 => do
    if ← accept .key then
      let stops : List Token := [.key, .value, .blockEnd]
      let k ← nodeUnless stops (node bound .entry)
      let v ← if ← accept .value then nodeUnless stops (node bound .entry) else add none .empty
      return (k, v) :: (← blockEntries bound)
    expect .blockEnd
    return []

/-- The items of a flow collection up to its end.  An item with a colon is a mapping of one
entry. -/
def flowItems : Nat → Bool → Compose (List Nat)
  | 0, _ => throw .malformed
  | bound + 1, first => do
    if ← accept .flowSequenceEnd then return []
    if !first then expect .flowEntry
    if ← accept .flowSequenceEnd then return []
    if ← accept .key then
      let entry : Compose Content := do
        let k ← nodeUnless [.value, .flowEntry, .flowSequenceEnd] (node bound .flow)
        let v ← if ← accept .value then
            nodeUnless [.flowEntry, .flowSequenceEnd] (node bound .flow)
          else add none .empty
        return .mapping [(k, v)]
      let n ← addCollection none .map entry
      return n :: (← flowItems bound false)
    let n ← node bound .flow
    return n :: (← flowItems bound false)

/-- The entries of a flow collection up to its end.  An item without a colon has no value. -/
def flowEntries : Nat → Bool → Compose (List (Nat × Nat))
  | 0, _ => throw .malformed
  | bound + 1, first => do
    if ← accept .flowMappingEnd then return []
    if !first then expect .flowEntry
    if ← accept .flowMappingEnd then return []
    if ← accept .key then
      let k ← nodeUnless [.value, .flowEntry, .flowMappingEnd] (node bound .flow)
      let v ← if ← accept .value then
          nodeUnless [.flowEntry, .flowMappingEnd] (node bound .flow)
        else add none .empty
      return (k, v) :: (← flowEntries bound false)
    let k ← node bound .flow
    let v ← add none .empty
    return (k, v) :: (← flowEntries bound false)
end

/-! ### Documents -/

/-- The handles that need not be given. -/
def commonHandles : List (String × String) :=
  [("!", "!"), ("!!", tagSpace)]

/-- The directives before a document: at most one version, whose first number is one, and handles
that are new. -/
def directives : Nat → Bool → List (String × String) → Compose (List (String × String))
  | 0, _, handles => return handles
  | bound + 1, versioned, handles => do
    match ← peek with
    | some (.directive d) =>
      advance
      match d with
      | .version major =>
        if versioned || major ≠ 1 then throw .malformed
        directives bound true handles
      | .handle name text =>
        if (handles.lookup name).isSome then throw .malformed
        directives bound versioned ((name, text) :: handles)
      | .other => directives bound versioned handles
    | _ => return handles

/-- The document at the start of the tokens, if there is one, and nothing after it but its end. -/
def onlyDocument (bound : Nat) : Compose (Option Nat) := do
  let root : Option Nat ← match ← peek with
    | none => pure none
    | some t => do
      let explicit := t = .documentStart || t matches .directive _
      if explicit then
        let handles ← directives bound false []
        modify fun s => { s with handles := handles ++ commonHandles }
        expect .documentStart
        match ← peek with
        | none => some <$> add none .empty
        | some .documentEnd => some <$> add none .empty
        | some .documentStart => throw .malformed
        | some (.directive _) => throw .malformed
        | some _ => some <$> node bound .block
      else some <$> node bound .block
  let ends := (← get).tokens.takeWhile (· = .documentEnd)
  modify fun s => { s with tokens := s.tokens.drop ends.length }
  if (← peek).isSome then throw .malformed
  return root

/-- The graph of a text, or nothing for a text without any node. -/
def Graph.ofText? (cs : List Char) : Except Fault (Option Graph) := do
  let (ts, fault) := tokens cs
  let (root, s) ← (onlyDocument (2 * ts.length + 2)).run ⟨ts, fault, #[], [], commonHandles, 0⟩
  return root.map fun root => ⟨s.nodes, root⟩

end ServerActions.Yaml
