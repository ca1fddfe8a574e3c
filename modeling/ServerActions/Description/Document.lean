import ServerActions.Description.Schema

/-!
# Descriptions

The parts of a description of an interface: its paths, their operations, and the parameters, bodies
and responses of those.

## Main definitions

* `OrReference` — an object, or a reference to one.
* `Parameter`, `MediaType`, `RequestBody`, `Response`, `Operation`, `PathItem`, `Components`,
  `Contents` — the parts, each with a `Model` by which it is read.
* `Document` — the contents together with the mapping in which references are looked up.
-/

namespace ServerActions.Description

variable {α : Type}

/-- An object given in place, or a reference to one. -/
inductive OrReference (α : Type)
  | reference (r : Reference)
  | object (a : α)
  deriving Repr

/-- An object of a model or a reference, told apart by the key of references. -/
def orReference (m : Model α) (v : Value) : Checked (OrReference α) :=
  if (v.fields?.getD []).has referenceKey then
    ((Reference.model.read v).map .reference).under "reference"
  else ((m.read v).map .object).under "object"

/-- A parameter. -/
structure Parameter where
  name : String
  place : Place
  description : Option String
  required : Bool
  deprecated : Bool
  schema : Option Node
  extras : Extras
  deriving Repr

/-- What is sent or received in one media type. -/
structure MediaType where
  schema : Option Node
  extras : Extras
  deriving Repr

/-- A request body. -/
structure RequestBody where
  description : Option String
  content : List (String × MediaType)
  required : Bool
  extras : Extras
  deriving Repr

/-- A response. -/
structure Response where
  description : Option String
  content : Option (List (String × MediaType))
  extras : Extras
  deriving Repr

/-- An operation. -/
structure Operation where
  tags : Option (List String)
  summary : Option String
  description : Option String
  operationId : Option String
  parameters : Option (List (OrReference Parameter))
  requestBody : Option (OrReference RequestBody)
  responses : List (String × OrReference Response)
  deprecated : Bool
  extras : Extras
  deriving Repr

/-- The operations of a path, by their methods. -/
structure PathItem where
  summary : Option String
  description : Option String
  parameters : Option (List (OrReference Parameter))
  operations : List (String × Operation)
  extras : Extras
  deriving Repr

/-- The parts that references are meant to point to. -/
structure Components where
  schemas : Option (List (String × Node))
  parameters : Option (List (String × OrReference Parameter))
  requestBodies : Option (List (String × OrReference RequestBody))
  responses : Option (List (String × OrReference Response))
  extras : Extras
  deriving Repr

/-- The contents of a description. -/
structure Contents where
  openapi : Option String
  info : Option (List (String × Value))
  servers : Option (List (List (String × Value)))
  paths : List (String × PathItem)
  components : Option Components
  extras : Extras
  deriving Repr

/-! ### Reading -/

/-- The names of the field for a schema. -/
def schemaNames : List String := ["schema", "schema_"]

/-- A parameter as the entries of a mapping, when its schema lies at a depth. -/
def Parameter.modelAt (depth : Nat) : Model Parameter where
  name := "Parameter"
  ofFields fs := fs.ifNamed <|
    Parameter.mk <$> fs.required "name" [] Value.toText
      <*> fs.required "in" ["in_"] Value.toPlace
      <*> fs.optional "description" [] Value.toText
      <*> fs.withDefault "required" [] false Value.toTruth
      <*> fs.withDefault "deprecated" [] false Value.toTruth
      <*> fs.optional "schema" ["schema_"] (Node.readAt depth)
      <*> fs.undeclared
        [["name"], ["in", "in_"], ["description"], ["required"], ["deprecated"], schemaNames]

/-- A parameter on its own, as the entries of a mapping. -/
def Parameter.model : Model Parameter := Parameter.modelAt 0

/-- A parameter inside an operation, a path or the components. -/
def Parameter.innerModel : Model Parameter := Parameter.modelAt 1

/-- A media type as the entries of a mapping, when its schema lies at a depth. -/
def MediaType.modelAt (depth : Nat) : Model MediaType where
  name := "MediaType"
  ofFields fs := fs.ifNamed <|
    MediaType.mk <$> fs.optional "schema" ["schema_"] (Node.readAt depth)
      <*> fs.undeclared [schemaNames]

/-- A media type on its own, as the entries of a mapping. -/
def MediaType.model : Model MediaType := MediaType.modelAt 0

/-- The media types of a body, by their names, when their schemas lie at a depth. -/
def contentOf (depth : Nat) : Value → Checked (List (String × MediaType)) :=
  Value.toMappingOf (MediaType.modelAt depth).read

/-- A request body as the entries of a mapping, when its schemas lie at a depth. -/
def RequestBody.modelAt (depth : Nat) : Model RequestBody where
  name := "RequestBody"
  ofFields fs := fs.ifNamed <|
    RequestBody.mk <$> fs.optional "description" [] Value.toText
      <*> fs.withDefault "content" [] [] (contentOf depth)
      <*> fs.withDefault "required" [] false Value.toTruth
      <*> fs.undeclared [["description"], ["content"], ["required"]]

/-- A request body on its own, as the entries of a mapping. -/
def RequestBody.model : Model RequestBody := RequestBody.modelAt 0

/-- A request body inside an operation or the components. -/
def RequestBody.innerModel : Model RequestBody := RequestBody.modelAt 1

/-- A response as the entries of a mapping, when its schemas lie at a depth. -/
def Response.modelAt (depth : Nat) : Model Response where
  name := "Response"
  ofFields fs := fs.ifNamed <|
    Response.mk <$> fs.optional "description" [] Value.toText
      <*> fs.optional "content" [] (contentOf depth)
      <*> fs.undeclared [["description"], ["content"]]

/-- A response on its own, as the entries of a mapping. -/
def Response.model : Model Response := Response.modelAt 0

/-- A response inside an operation or the components. -/
def Response.innerModel : Model Response := Response.modelAt 1

/-- The mapping with every key made a text; of two keys with the same text the later value counts,
in the place of the first. -/
def withTextKeys (fs : Fields) : Fields :=
  Fields.ofList (fs.map fun f => (.str f.1.shown, f.2))

/-- Whether a key is a number with more digits than can be written out. -/
def isTooLong (k : Key) : Bool :=
  match k with
  | .int n => Text.maxNumeralDigits < (toString n.natAbs).length
  | _ => false

/-- The responses of an operation, by their status codes, which may be given as numbers. -/
def responsesOf (v : Value) : Checked (List (String × OrReference Response)) :=
  if v.isNull then .valid []
  else match v.fields? with
    | some fs =>
      if fs.any fun f => isTooLong f.1 then .fault .keyTooLong
      else checkEntries (orReference Response.innerModel) (withTextKeys fs)
    | none => .fault .notMapping

/-- An operation as the entries of a mapping. -/
def Operation.model : Model Operation where
  name := "Operation"
  ofFields fs := fs.ifNamed <|
    Operation.mk <$> fs.optional "tags" [] (Value.toListOf Value.toText)
      <*> fs.optional "summary" [] Value.toText
      <*> fs.optional "description" [] Value.toText
      <*> fs.optional "operationId" [] Value.toText
      <*> fs.optional "parameters" [] (Value.toListOf (orReference Parameter.innerModel))
      <*> fs.optional "requestBody" [] (orReference RequestBody.innerModel)
      <*> fs.withDefault "responses" [] [] responsesOf
      <*> fs.withDefault "deprecated" [] false Value.toTruth
      <*> fs.undeclared
        [["tags"], ["summary"], ["description"], ["operationId"], ["parameters"], ["requestBody"],
         ["responses"], ["deprecated"]]

/-- The methods of operations. -/
def methods : List String :=
  ["connect", "delete", "get", "head", "options", "patch", "post", "put", "trace"]

/-- The method that a key of a path names, in whatever case. -/
def methodOf? (k : Key) : Option String :=
  match k with
  | .str s =>
    let lower := String.ofList (s.toList.map Char.toLower)
    if lower ∈ methods then some lower else none
  | _ => none

/-- The entries of a path whose keys are methods, under the methods' names; of two spellings of one
method the later value counts, in the place of the first. -/
def methodEntries (fs : Fields) : Fields :=
  Fields.ofList (fs.filterMap fun f => (methodOf? f.1).map fun m => (.str m, f.2))

/-- The entries of a path that are neither operations nor named so. -/
def otherEntries (fs : Fields) : Fields :=
  fs.filter fun f => (methodOf? f.1).isNone && f.1 ≠ .str "operations"

/-- A path as the entries of a mapping. -/
def PathItem.model : Model PathItem where
  name := "PathItem"
  ofFields fs :=
    let others := otherEntries fs
    others.ifNamed <|
    PathItem.mk <$> others.optional "summary" [] Value.toText
      <*> others.optional "description" [] Value.toText
      <*> others.optional "parameters" [] (Value.toListOf (orReference Parameter.innerModel))
      <*> (checkEntries Operation.model.read (methodEntries fs)).under "operations"
      <*> others.undeclared [["summary"], ["description"], ["parameters"]]

/-- The components as the entries of a mapping. -/
def Components.model : Model Components where
  name := "Components"
  ofFields fs := fs.ifNamed <|
    Components.mk <$> fs.optional "schemas" [] (Value.toMappingOf (Node.readAt 0))
      <*> fs.optional "parameters" [] (Value.toMappingOf (orReference Parameter.innerModel))
      <*> fs.optional "requestBodies" [] (Value.toMappingOf (orReference RequestBody.innerModel))
      <*> fs.optional "responses" [] (Value.toMappingOf (orReference Response.innerModel))
      <*> fs.undeclared [["schemas"], ["parameters"], ["requestBodies"], ["responses"]]

/-- Whether a key is a path. -/
def isPathKey (k : Key) : Bool :=
  match k with
  | .str s => s.toList.head? = some '/'
  | _ => false

/-- The paths of a description; other keys are passed over. -/
def pathsOf (v : Value) : Checked (List (String × PathItem)) :=
  if v.isNull then .valid []
  else match v.fields? with
    | some fs => checkEntries PathItem.model.read (fs.filter fun f => isPathKey f.1)
    | none => .fault .notMapping

/-- The contents of a description as the entries of a mapping. -/
def Contents.model : Model Contents where
  name := "OpenAPI"
  ofFields fs := fs.ifNamed <|
    Contents.mk <$> fs.optional "openapi" [] Value.toText
      <*> fs.optional "info" [] Value.toNamed
      <*> fs.optional "servers" [] (Value.toListOf Value.toNamed)
      <*> fs.withDefault "paths" [] [] pathsOf
      <*> fs.optional "components" [] Components.model.read
      <*> fs.undeclared [["openapi"], ["info"], ["servers"], ["paths"], ["components"]]

/-- A description: its contents, and the mapping in which references are looked up. -/
structure Document where
  contents : Contents
  raw : Fields
  deriving Repr

/-- A description as the entries of a mapping, which are kept for references. -/
def Document.model : Model Document where
  name := Contents.model.name
  ofFields fs := (Contents.model.ofFields fs).map fun contents => ⟨contents, fs⟩

end ServerActions.Description
