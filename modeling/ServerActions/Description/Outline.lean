import ServerActions.Description.Document
import ServerActions.Value.Outline

/-!
# Outlines of descriptions

The parts of a description laid out again, each field under the name by which it is read.

## Main definitions

* `Node.outline`, `Parameter.outline`, …, `Contents.outline` — the outline of each part.
* `Contents.toDocument` — the description whose references are looked up in its own outline.
-/

namespace ServerActions.Description

open Outline

variable {α : Type}

/-- The outline of a reference. -/
def Reference.outline (r : Reference) : Outline :=
  .model "Reference" [(referenceKey, text r.target)] r.extras

/-- The outline of an object or of the reference to it. -/
def OrReference.outline (inner : α → Outline) : OrReference α → Outline
  | .reference r => r.outline
  | .object a => inner a

/-- The outline of the keyword `type`. -/
def TypeKeyword.outline : TypeKeyword → Outline
  | .one name => text name
  | .several names => texts names

/-- The outline of the keyword `additionalProperties`. -/
def AdditionalProperties.outline : AdditionalProperties → Outline
  | .allowed b => truth b
  | .described entries => named entries

mutual
/-- The outline of a node. -/
def Node.outline : Node → Outline
  | .reference r => r.outline
  | .schema k items properties allOf oneOf anyOf extras =>
    .model "Schema"
      (field "title" text k.title
        ++ field "description" text k.description
        ++ field "type" TypeKeyword.outline k.type
        ++ field "format" text k.format
        ++ field "enum" (fun vs => .value (.list vs)) k.choices
        ++ field "nullable" truth k.nullable
        ++ itemsOutline items
        ++ propertiesOutline properties
        ++ field "required" texts k.required
        ++ field "additionalProperties" AdditionalProperties.outline k.additionalProperties
        ++ membersOutline "allOf" allOf
        ++ membersOutline "oneOf" oneOf
        ++ membersOutline "anyOf" anyOf)
      extras
termination_by structural n => n

/-- The field for the node of items. -/
def itemsOutline : Option Node → List (String × Outline)
  | some n => [("items", n.outline)]
  | none => []
termination_by structural n => n

/-- The field for the nodes of properties. -/
def propertiesOutline : Option (List (String × Node)) → List (String × Outline)
  | some ns => [("properties", .mapping (namedOutlines ns))]
  | none => []
termination_by structural ns => ns

/-- The outlines of nodes with names. -/
def namedOutlines : List (String × Node) → List (String × Outline)
  | [] => []
  | (name, n) :: ns => (name, n.outline) :: namedOutlines ns
termination_by structural ns => ns

/-- The field for the nodes of a composition. -/
def membersOutline (name : String) : Option (List Node) → List (String × Outline)
  | some ns => [(name, .list (nodeOutlines ns))]
  | none => []
termination_by structural ns => ns

/-- The outlines of nodes. -/
def nodeOutlines : List Node → List Outline
  | [] => []
  | n :: ns => n.outline :: nodeOutlines ns
termination_by structural ns => ns
end

/-- A list of outlines. -/
def listOutline (inner : α → Outline) (as : List α) : Outline :=
  .list (as.map inner)

/-- A mapping of outlines. -/
def mappingOutline (inner : α → Outline) (entries : List (String × α)) : Outline :=
  .mapping (entries.map fun e => (e.1, inner e.2))

/-- The outline of a parameter. -/
def Parameter.outline (p : Parameter) : Outline :=
  .model "Parameter"
    ([("name", text p.name), ("in", text p.place.name)]
      ++ field "description" text p.description
      ++ [("required", truth p.required), ("deprecated", truth p.deprecated)]
      ++ field "schema" Node.outline p.schema)
    p.extras

/-- The outline of a media type. -/
def MediaType.outline (m : MediaType) : Outline :=
  .model "MediaType" (field "schema" Node.outline m.schema) m.extras

/-- The outline of a request body. -/
def RequestBody.outline (b : RequestBody) : Outline :=
  .model "RequestBody"
    (field "description" text b.description
      ++ [("content", mappingOutline MediaType.outline b.content), ("required", truth b.required)])
    b.extras

/-- The outline of a response. -/
def Response.outline (r : Response) : Outline :=
  .model "Response"
    (field "description" text r.description
      ++ field "content" (mappingOutline MediaType.outline) r.content)
    r.extras

/-- The outline of an operation. -/
def Operation.outline (o : Operation) : Outline :=
  .model "Operation"
    (field "tags" texts o.tags
      ++ field "summary" text o.summary
      ++ field "description" text o.description
      ++ field "operationId" text o.operationId
      ++ field "parameters" (listOutline (OrReference.outline Parameter.outline)) o.parameters
      ++ field "requestBody" (OrReference.outline RequestBody.outline) o.requestBody
      ++ [("responses", mappingOutline (OrReference.outline Response.outline) o.responses),
          ("deprecated", truth o.deprecated)])
    o.extras

/-- The outline of a path. -/
def PathItem.outline (p : PathItem) : Outline :=
  .model "PathItem"
    (field "summary" text p.summary
      ++ field "description" text p.description
      ++ field "parameters" (listOutline (OrReference.outline Parameter.outline)) p.parameters
      ++ [("operations", mappingOutline Operation.outline p.operations)])
    p.extras

/-- The outline of the components. -/
def Components.outline (c : Components) : Outline :=
  .model "Components"
    (field "schemas" (mappingOutline Node.outline) c.schemas
      ++ field "parameters" (mappingOutline (OrReference.outline Parameter.outline)) c.parameters
      ++ field "requestBodies" (mappingOutline (OrReference.outline RequestBody.outline))
        c.requestBodies
      ++ field "responses" (mappingOutline (OrReference.outline Response.outline)) c.responses)
    c.extras

/-- The outline of the contents of a description. -/
def Contents.outline (c : Contents) : Outline :=
  .model Contents.model.name
    (field "openapi" text c.openapi
      ++ field "info" named c.info
      ++ field "servers" (listOutline named) c.servers
      ++ [("paths", mappingOutline PathItem.outline c.paths)]
      ++ field "components" Components.outline c.components)
    c.extras

/-- The description whose references are looked up in its own outline. -/
def Contents.toDocument (c : Contents) : Document :=
  ⟨c, c.outline.plainFields⟩

end ServerActions.Description
