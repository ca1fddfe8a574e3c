import ServerActions.Text.Base64
import ServerActions.Yaml.Node
import ServerActions.Yaml.Numeral

/-!
# The values of YAML nodes

What the nodes of a graph are turned into.  The collections are taken up level by level: a part that
is a scalar has its value at once, and a part that is a collection is put off until all those of the
level above are done.  So of several faults the one nearest to the root comes out.

## Main definitions

* `Building` — what was made of the nodes so far.
* `flatten` — the merging of mappings into one another.
* `meet`, `takeUp` — a node is met as a part, and a collection is taken up.
* `valueAt` — the value of a node, when all that it consists of is made.
-/

namespace ServerActions.Yaml

/-- What was made of a node. -/
inductive Made
  /-- A scalar, with the node at which it was computed; all `.nan` are computed at the same. -/
  | scalar (key : Key) (origin : Option Nat)
  /-- A list, a set or a mapping whose parts are yet to come, or have come. -/
  | collection
  deriving Repr, Inhabited

/-- What was made of the nodes so far. -/
structure Building where
  nodes : Array Node
  made : Array (Option Made)
  /-- The collections that were put off, the last one first. -/
  waiting : List Nat
  deriving Repr

/-- A step of building. -/
abbrev Build := StateT Building (Except Fault)

/-- A node. -/
def nodeAt (i : Nat) : Build Node := do
  return (← get).nodes.getD i .empty

/-- Puts a node into the place of another. -/
def putNode (i : Nat) (n : Node) : Build Unit :=
  modify fun s => { s with nodes := s.nodes.setIfInBounds i n }

/-- Remembers what was made of a node. -/
def putMade (i : Nat) (m : Made) : Build Unit :=
  modify fun s => { s with made := s.made.setIfInBounds i (some m) }

/-! ### Merging -/

/-- The entries of a mapping. -/
def entriesAt (i : Nat) : Build (List (Nat × Nat)) := do
  match (← nodeAt i).content with
  | .mapping entries => return entries
  | _ => throw .malformed

/-- Puts entries into the place of those of a mapping. -/
def putEntries (i : Nat) (entries : List (Nat × Nat)) : Build Unit := do
  putNode i { ← nodeAt i with content := .mapping entries }

/-- A key that looks like an equals sign becomes a text. -/
def plainKey (i : Nat) : Build Unit := do
  let n ← nodeAt i
  if n.tag = .equals then putNode i { n with tag := .str }

/-- How many of some entries come before the first one whose value is to be merged. -/
def beforeMerge (entries : List (Nat × Nat)) : Build Nat := do
  let nodes := (← get).nodes
  return (entries.takeWhile fun e => (nodes.getD e.1 .empty).tag ≠ .merge).length

/-- Merges into a mapping what its entries from `index` on ask for, behind the entries in `merged`,
which were found already.  Every step removes an entry that asks for a merger, and `bound` is at
least the count of those. -/
def flatten : Nat → Nat → List (Nat × Nat) → Nat → Build Unit
  | 0, _, _, _ => throw .malformed
  | bound + 1, index, merged, i => do
    let entries ← entriesAt i
    let index := index + (← beforeMerge (entries.drop index))
    (entries.take index).forM fun e => plainKey e.1
    match entries[index]? with
    | none => putEntries i (merged ++ entries)
    | some (_, source) =>
      putEntries i (entries.eraseIdx index)
      let flat (j : Nat) : Build (List (Nat × Nat)) := do
        discard (entriesAt j)
        flatten bound 0 [] j
        entriesAt j
      let more ← match (← nodeAt source).content with
        | .sequence items => (List.flatten ∘ List.reverse) <$> items.mapM flat
        | _ => flat source
      flatten bound index (merged ++ more) i

/-! ### Scalars -/

/-- The text of a scalar; for a mapping it is the one under the equals sign. -/
def scalarText (nodes : Array Node) : Nat → Nat → Except Fault String
  | 0, _ => .error .tooDeep
  | bound + 1, i =>
    match (nodes.getD i .empty).content with
    | .scalar text => .ok text
    | .sequence _ => .error .malformed
    | .mapping entries =>
      match entries.find? fun e => (nodes.getD e.1 .empty).tag = .equals with
      | some e => scalarText nodes bound e.2
      | none => .error .malformed

/-- The truth value that a word denotes. -/
def truth (text : List Char) : Except Fault Bool :=
  let word := String.ofList (Text.lower text)
  match truthWords.lookup word with
  | some b => .ok b
  | none => .error (.notTruth word)

/-- The octets that a text denotes. -/
def octets (text : List Char) : Except Fault (List UInt8) :=
  if text.all fun c => c.toNat < 128 then
    match Text.Base64.decode? text with
    | some bs => .ok bs
    | none => .error .malformed
  else .error .malformed

/-- The scalar of a kind that a text denotes. -/
def scalar (tag : Tag) (text : String) : Except Fault Key :=
  let cs := text.toList
  match tag with
  | .null => .ok .null
  | .bool => (truth cs).map .bool
  | .int => (integer cs).map .int
  | .float => (number cs).map .float
  | .moment => (moment cs).map .moment
  | .str => .ok (.str text)
  | .octets => (octets cs).map .octets
  | _ => .error .malformed

/-- The node at which a scalar is computed: `.nan` is the same everywhere. -/
def originOf (i : Nat) (text : String) : Option Nat :=
  if unsigned (Text.lower (withoutGaps text.toList)) = nanWord then none else some i

/-- Makes a scalar of a node. -/
def makeScalar (i : Nat) (n : Node) : Build Unit := do
  let nodes := (← get).nodes
  let text ← scalarText nodes (nodes.size + 1) i
  if n.tag = .moment && !(n.content matches .scalar _) then throw .momentInMapping
  putMade i (.scalar (← scalar n.tag text) (originOf i text))

/-! ### Collections -/

/-- Whether nodes of a kind are collections. -/
def Tag.isCollection (t : Tag) : Bool :=
  t = .list || t = .map || t = .set || t = .pairs

/-- Whether nodes of a kind have no value of their own. -/
def Tag.isVoid (t : Tag) : Bool :=
  t = .merge || t = .equals || t = .other

/-- Meets a node as a part of another, unless it was met before. -/
def meet (i : Nat) : Build Unit := do
  if ((← get).made.getD i none).isSome then return
  let n ← nodeAt i
  if n.tag.isCollection then
    putMade i .collection
    modify fun s => { s with waiting := i :: s.waiting }
  else if n.tag.isVoid then throw .malformed
  else makeScalar i n

/-- Meets the key and the value of an entry.  The key has to be a scalar. -/
def meetEntry (e : Nat × Nat) : Build Unit := do
  meet e.1
  if (← get).made.getD e.1 none matches some .collection then throw .malformed
  meet e.2

/-- Meets the key and the value of a mapping with one entry. -/
def meetPair (i : Nat) : Build Unit := do
  match ← entriesAt i with
  | [e] =>
    meet e.1
    meet e.2
  | _ => throw .malformed

/-- Takes up a collection that was put off.  `bound` is at least the count of the entries that ask
for a merger. -/
def takeUp (bound i : Nat) : Build Unit := do
  let n ← nodeAt i
  match n.tag, n.content with
  | .list, .sequence items => items.forM meet
  | .pairs, .sequence items => items.forM meetPair
  | tag, .mapping _ =>
    if tag = .map || tag = .set then
      flatten (bound + 1) 0 [] i
      (← entriesAt i).forM meetEntry
    else throw .malformed
  | _, _ => throw .malformed

/-- Takes up all collections, level by level, of which there are at most as many as the first
argument says. -/
def takeUpAll (bound : Nat) : Nat → Build Unit
  | 0 => return
  | levels + 1 => do
    let level := (← get).waiting.reverse
    if level.isEmpty then return
    modify fun s => { s with waiting := [] }
    level.forM (takeUp bound)
    takeUpAll bound levels

/-! ### Values -/

/-- A key with the node at which it was computed. -/
abbrev Origin := Key × Option Nat

/-- Whether two keys are the same.  What is no number is the same as itself only. -/
def Origin.same (a b : Origin) : Bool :=
  a.1.same b.1 || (a.1 = .float .nan && a = b)

/-- The entries with one more: in the place of the first with the same key, or at the end. -/
def putSame {α : Type} (e : Origin × α) : List (Origin × α) → List (Origin × α)
  | [] => [e]
  | f :: fs => if f.1.same e.1 then (f.1, e.2) :: fs else f :: putSame e fs

/-- The entries with each key only once. -/
def oncePerKey {α : Type} (entries : List (Origin × α)) : List (Key × α) :=
  (entries.foldl (fun es e => putSame e es) []).map fun e => (e.1.1, e.2)

/-- The scalar that was made of a node. -/
def Building.key? (s : Building) (i : Nat) : Option Origin :=
  match s.made.getD i none with
  | some (.scalar k origin) => some (k, origin)
  | _ => none

/-- The only entry of a mapping. -/
def Building.entry? (s : Building) (i : Nat) : Option (Nat × Nat) :=
  match (s.nodes.getD i .empty).content with
  | .mapping [e] => some e
  | _ => none

/-- The value of a node below the collections in `above`.  The first argument bounds how many
collections lie inside one another. -/
def Building.valueAt (s : Building) : Nat → List Nat → Nat → Value
  | 0, _, _ => .null
  | levels + 1, above, i =>
    match s.key? i with
    | some k => k.1.toValue
    | none =>
      match above.idxOf? i with
      | some level => .again level
      | none =>
        let part := s.valueAt levels (i :: above)
        let n := s.nodes.getD i .empty
        match n.content with
        | .scalar _ => .null
        | .sequence items =>
          if n.tag = .pairs then
            .list ((items.filterMap s.entry?).map fun e => .pair (part e.1) (part e.2))
          else .list (items.map part)
        | .mapping entries =>
          let keyed {α : Type} (f : Nat → α) : List (Key × α) :=
            oncePerKey (entries.filterMap fun e => (s.key? e.1).map (·, f e.2))
          if n.tag = .set then .set ((keyed fun _ => ()).map Prod.fst) else .map (keyed part)

/-- How many entries a node has. -/
def Node.entryCount (n : Node) : Nat :=
  match n.content with
  | .mapping entries => entries.length
  | _ => 0

/-- The value of a graph. -/
def Graph.value (g : Graph) : Except Fault Value := do
  let size := g.nodes.size
  let bound := g.nodes.foldl (fun n node => n + node.entryCount) 0
  let build : Build Unit := do
    meet g.root
    takeUpAll bound (size + 1)
  let (_, s) ← build.run ⟨g.nodes, Array.replicate size none, []⟩
  return s.valueAt (size + 1) [] g.root

end ServerActions.Yaml
