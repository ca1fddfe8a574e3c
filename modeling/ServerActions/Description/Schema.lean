import ServerActions.Checked.Fields

/-!
# Schemas

The nodes that describe types: a reference to another place of the description, or a schema with its
keywords.

## Main definitions

* `Reference`, `Keywords`, `Node` — a reference, the keywords of a schema that hold no further
  nodes, and a node.
* `Node.read` — the node that a value describes.  A keyword with a value of the wrong kind counts as
  absent, so that a mapping is refused only for its own keys.
-/

namespace ServerActions.Description

/-- The entries of a model that are none of its fields. -/
abbrev Extras := List (String × Value)

/-- A reference to another place. -/
structure Reference where
  target : String
  extras : Extras
  deriving Repr

/-- The key that makes a mapping a reference. -/
def referenceKey : String := "$ref"

/-- The value of the keyword `type`. -/
inductive TypeKeyword
  | one (name : String)
  | several (names : List String)
  deriving DecidableEq, Repr

/-- The value of the keyword `additionalProperties`. -/
inductive AdditionalProperties
  | allowed (b : Bool)
  | described (entries : List (String × Value))
  deriving Repr

/-- The keywords of a schema that hold no further nodes. -/
structure Keywords where
  title : Option String
  description : Option String
  type : Option TypeKeyword
  format : Option String
  choices : Option (List Value)
  nullable : Option Bool
  required : Option (List String)
  additionalProperties : Option AdditionalProperties
  deriving Repr

/-- A node that describes a type. -/
inductive Node
  | reference (r : Reference)
  | schema (keywords : Keywords) (items : Option Node) (properties : Option (List (String × Node)))
      (allOf oneOf anyOf : Option (List Node)) (extras : Extras)
  deriving Repr

/-! ### Keywords -/

/-- The names of the keywords. -/
def keywordNames : List String :=
  ["title", "description", "type", "format", "enum", "nullable", "items", "properties", "required",
   "additionalProperties", "allOf", "oneOf", "anyOf"]

variable {α : Type}

/-- The value of a keyword, absent unless it is of the right kind. -/
def keyword? (fs : Fields) (name : String) (read : Value → Checked α) : Option α :=
  (fs.get? name).bind fun v => (read v).toOption

/-- The keyword `type`: one name, or several. -/
def TypeKeyword.read (v : Value) : Checked TypeKeyword :=
  match v.toText with
  | .valid name => .valid (.one name)
  | .invalid _ => (v.toListOf Value.toText).map .several

/-- The keyword `additionalProperties`: a mapping, or a truth value. -/
def AdditionalProperties.read (v : Value) : Checked AdditionalProperties :=
  if v.isMapping then v.toNamed.map .described else v.toTruth.map .allowed

/-- The keywords of a schema that hold no further nodes. -/
def Keywords.read (fs : Fields) : Keywords where
  title := keyword? fs "title" Value.toText
  description := keyword? fs "description" Value.toText
  type := keyword? fs "type" TypeKeyword.read
  format := keyword? fs "format" Value.toText
  choices := keyword? fs "enum" (Value.toListOf .valid)
  nullable := keyword? fs "nullable" Value.toTruth
  required := keyword? fs "required" (Value.toListOf Value.toText)
  additionalProperties := keyword? fs "additionalProperties" AdditionalProperties.read

/-! ### References -/

/-- A reference as the entries of a mapping; `ref` stands in for the key of references where that is
missing. -/
def Reference.model : Model Reference where
  name := "Reference"
  ofFields fs := fs.ifNamed <|
    Reference.mk <$> fs.required referenceKey ["ref"] Value.toText
      <*> fs.undeclared [[referenceKey, "ref"]]

/-! ### Nodes -/

/-- How to read the nodes inside a schema. -/
abbrev NodeReader := Value → Checked Node

/-- The result of reading each member, if every one can be read. -/
def readAll (read : Value → Checked α) : List Value → Option (List α)
  | [] => some []
  | v :: vs => do return (← (read v).toOption) :: (← readAll read vs)

/-- The node under the keyword `items`. -/
def itemsOf (read : NodeReader) (fs : Fields) : Option Node :=
  keyword? fs "items" read

/-- The entries of a mapping whose keys are texts and whose values are mappings. -/
def propertyEntries (fs : Fields) : List (String × Value) :=
  fs.filterMap fun f => if f.2.isMapping then f.1.str?.map fun name => (name, f.2) else none

/-- The nodes under the keyword `properties`.  An entry counts only when its key is a text and its
value a mapping; when one of those is no node, there is none at all. -/
def propertiesOf (read : NodeReader) (fs : Fields) : Option (List (String × Node)) := do
  let entries := propertyEntries (← (← fs.get? "properties").fields?)
  let nodes ← readAll read (entries.map Prod.snd)
  return (entries.map Prod.fst).zip nodes

/-- The nodes under a keyword that holds a list of them. -/
def nodesOf (read : NodeReader) (name : String) (fs : Fields) : Option (List Node) := do
  readAll read (← (← fs.get? name).items?)

/-- A schema as the entries of a mapping, whatever its keys are, when the nodes inside are read by
`read`. -/
def Node.schemaWith (read : NodeReader) : Model Node where
  name := "Schema"
  ofFields fs := fs.ifNamed <|
    (fs.undeclared (keywordNames.map ([·]))).map
      (Node.schema (Keywords.read fs) (itemsOf read fs) (propertiesOf read fs)
        (nodesOf read "allOf" fs) (nodesOf read "oneOf" fs) (nodesOf read "anyOf" fs))

/-- The node that a value describes: a reference if it is a mapping with the key of references, and
a schema otherwise.  The first argument bounds how many nodes lie inside one another, and `around`
has the values of those around this one, of which none is described a second time. -/
def Node.readWithin : Nat → List Value → Value → Checked Node
  | 0, _, _ => .fault .withinItself
  | levels + 1, around, v =>
    if around.any v.same then .fault .withinItself
    else if (v.fields?.getD []).has referenceKey then
      ((Reference.model.read v).map .reference).under "reference"
    else ((Node.schemaWith (Node.readWithin levels (v :: around))).read v).under "object"

/-- How many objects may lie inside one another. -/
def maxDepth : Nat := 255

/-- The node that a value describes, when `depth` of the levels are used up around it. -/
def Node.readAt (depth : Nat) : Value → Checked Node :=
  Node.readWithin (maxDepth - depth) []

/-- The node that a value describes on its own, where one level less is left for it than among the
schemas of the components. -/
def Node.read : Value → Checked Node :=
  Node.readAt 1

/-- A schema as the entries of a mapping, whatever its keys are. -/
def Node.schemaModel : Model Node :=
  Node.schemaWith Node.read

/-- A value is refused when it is no mapping. -/
theorem Node.read_eq (v : Value) :
    Node.read v =
      if (v.fields?.getD []).has referenceKey then
        ((Reference.model.read v).map Node.reference).under "reference"
      else ((Node.schemaWith (Node.readWithin 253 [v])).read v).under "object" :=
  rfl

end ServerActions.Description
