import ServerActions.Action.Source
import ServerActions.Reference.Synthesis
import ServerActions.Settings.Document

/-!
# Compiling operations

The unit of one operation: its parameters with those of its path, its request body, the type of its
successful response and its comment.

## Main definitions

* `jsonMediaType?` — the media type of a body that is JSON.
* `parameters`, `payload`, `responseType` — the parts of an operation.
* `root` — the root of the URLs.
* `compile` — the unit of an operation.
-/

namespace ServerActions.Generation

open Description (Document OrReference MediaType Operation)
open Reference (Run)
open TypeScript (TypeExpr)

/-- The media types that are JSON whatever else there is. -/
def jsonMediaTypes : List String := ["application/json", "text/json"]

/-- Whether a text ends with another. -/
def endsWith (ending text : String) : Bool :=
  ending.toList.isSuffixOf text.toList

/-- The media type that is JSON, with its name: one of the well-known ones, or else the first whose
name ends so. -/
def jsonMediaType? (content : List (String × MediaType)) : Option (String × MediaType) :=
  let known := jsonMediaTypes.findSome? fun name => (content.lookup name).map fun m => (name, m)
  known.or (content.find? fun c => endsWith "+json" c.1)

/-! ### Parameters -/

/-- The remark on a parameter that is no part of the call. -/
def unwiredNotice (p : Description.Parameter) : Notice :=
  ⟨.debug, .operations,
    "Not wiring " ++ p.place.name ++ " parameter '" ++ p.name ++ "' into the signature"⟩

/-- The parameters given, except those with the name and the place of one that came before. -/
def parametersFrom (doc : Document) (compositions : Bool) (seen : List (String × Place)) :
    List (OrReference Description.Parameter) → Run (List Action.Parameter)
  | [] => return []
  | given :: rest => do
    let p ← Run.ofExcept (Reference.object doc.raw Description.Parameter.model given)
    if (p.name, p.place) ∈ seen then parametersFrom doc compositions seen rest
    else
      if p.place = .header ∨ p.place = .cookie then Run.note (unwiredNotice p)
      let t ← Reference.typeOf? doc.raw compositions p.schema
      let ps ← parametersFrom doc compositions ((p.name, p.place) :: seen) rest
      return ⟨p.name, p.place, p.required, t, p.description⟩ :: ps

/-- The parameters of an operation: its own, then those of its path. -/
def parameters (doc : Document) (compositions : Bool) (o : Operation)
    (pathParameters : Option (List (OrReference Description.Parameter))) :
    Run (List Action.Parameter) :=
  parametersFrom doc compositions [] (o.parameters.getD [] ++ pathParameters.getD [])

/-! ### Bodies -/

/-- The request body of an operation, if it has one. -/
def payload (doc : Document) (compositions : Bool) (o : Operation) : Run (Option Action.Payload) :=
  match o.requestBody with
  | none => return none
  | some given => do
    let b ← Run.ofExcept (Reference.object doc.raw Description.RequestBody.model given)
    match jsonMediaType? b.content with
    | none => return some ⟨none, .any, b.required, b.description⟩
    | some (name, m) =>
      let t ← Reference.typeOf? doc.raw compositions m.schema
      return some ⟨some name, t, b.required, b.description⟩

/-- The status of the response whose type is the payload's. -/
def successStatus : String := "200"

/-- The type of the successful response. -/
def responseType (doc : Document) (compositions : Bool) (o : Operation) : Run TypeExpr :=
  match o.responses.lookup successStatus with
  | none => return .any
  | some given => do
    let r ← Run.ofExcept (Reference.object doc.raw Description.Response.model given)
    match jsonMediaType? (r.content.getD []) with
    | none => return .any
    | some (_, m) => Reference.typeOf? doc.raw compositions m.schema

/-! ### Units -/

/-- The text without the slashes at its end. -/
def withoutFinalSlashes (cs : List Char) : List Char :=
  (cs.reverse.dropWhile (· == '/')).reverse

/-- The root of the URLs, as it stands in their templates. -/
def root (s : DocumentSettings) : String :=
  match s.baseUrl with
  | some url =>
    if url.isEmpty then Action.environmentRoot s.baseUrlEnv
    else String.ofList (TypeScript.escapeTemplate (withoutFinalSlashes url.toList))
  | none => Action.environmentRoot s.baseUrlEnv

/-- The unit of an operation. -/
def compile (doc : Document) (s : DocumentSettings) (path method : String) (o : Operation)
    (pathParameters : Option (List (OrReference Description.Parameter))) : Run Action.Unit := do
  let ps ← parameters doc s.synthesizeCompositions o pathParameters
  let body ← payload doc s.synthesizeCompositions o
  let response ← responseType doc s.synthesizeCompositions o
  return Action.Unit.build (TypeScript.operationName method path o.operationId) method path response
    (root s) ps body (TypeScript.docLines o.summary o.description o.deprecated)

end ServerActions.Generation
