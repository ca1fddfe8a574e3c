import ServerActions.Place
import ServerActions.Text.Case
import ServerActions.TypeScript.Template
import ServerActions.TypeScript.TypeExpr

/-!
# The call of an operation

What a generated function is made of: the list of its parameters, the template of the URL, the
statements that append the query and the declaration of the request's options.

## Main definitions

* `Parameter`, `Payload` — a parameter and a request body.
* `signature` — the parameter list of the function.
* `urlTemplate` — the inside of the template literal of the URL.
* `Call`, `Call.build` — the four parts together.
-/

namespace ServerActions.Action

open TypeScript

/-- A parameter of an operation. -/
structure Parameter where
  name : String
  place : Place
  required : Bool
  type : TypeExpr
  description : Option String
  deriving Repr

/-- The body of a request. -/
structure Payload where
  contentType : Option String
  type : TypeExpr
  required : Bool
  description : Option String
  deriving Repr

/-- The parameters of a place, in order. -/
def placedIn (place : Place) (ps : List Parameter) : List Parameter :=
  ps.filter fun p => p.place = place

/-- The names under which path parameters are declared. -/
def pathBindings (ps : List Parameter) : List String :=
  bindings (ps.map Parameter.name)

/-! ### The parameter list -/

/-- A property of the pattern that takes the path parameters apart. -/
def bindingPattern (name binding : String) : String :=
  if binding = name then binding else propertyName name ++ ": " ++ binding

/-- The pattern and the type of the path parameters. -/
def pathGroup (ps : List Parameter) : String :=
  let patterns := List.zipWith bindingPattern (ps.map Parameter.name) (pathBindings ps)
  "\x7b " ++ ", ".intercalate patterns ++ " \x7d: "
    ++ (TypeExpr.record (ps.map fun p => ⟨p.name, p.type, false⟩)).text

/-- The parameter that takes the query. -/
def queryGroup (ps : List Parameter) : String :=
  "query: " ++ (TypeExpr.record (ps.map fun p => ⟨p.name, p.type, !p.required⟩)).text

/-- The parameter list of a function that takes nothing. -/
def noArguments : String := "_?: void"

/-- The parameter list of a function: the path parameters, the query and the body, as far as there
are any. -/
def signature (pathParams queryParams : List Parameter) (payload : Option Payload) : String :=
  let parts :=
    (if pathParams.isEmpty then [] else [pathGroup pathParams])
      ++ (if queryParams.isEmpty then [] else [queryGroup queryParams])
      ++ (payload.map fun b => "body: " ++ b.type.text).toList
  if parts.isEmpty then noArguments else ", ".intercalate parts

/-! ### The URL -/

/-- The binding of the last of the path parameters that has a name. -/
def bindingOf (ps : List Parameter) (name : String) : Option String :=
  ((ps.map Parameter.name).zip (pathBindings ps)).reverse.lookup name

/-- The inside of the URL's template literal: the root as it is, then the path, escaped and with its
placeholders made interpolations. -/
def urlTemplate (pathParams : List Parameter) (path root : String) : String :=
  root ++ String.ofList (interpolated
    (fun name => (bindingOf pathParams (String.ofList name)).map String.toList)
    (escapeTemplate path.toList))

/-- The interpolation that reads the root of the URL from the environment. -/
def environmentRoot (name : String) : String :=
  String.ofList (interpolation ("process.env.".toList ++ name.toList))

/-! ### The request -/

/-- The statements that append the query to the URL. -/
def queryStatements : String :=
  "\n".intercalate
    ["const queryStr = new URLSearchParams(",
     "  Object.entries(query)",
     "    .filter(([_, v]) => v !== undefined)",
     "    .map(([k, v]) => [k, String(v)]),",
     ").toString();",
     "url += queryStr ? \x60?$\x7bqueryStr\x7d\x60 : '';"]

/-- The method as it is sent. -/
def sentMethod (method : String) : String :=
  String.ofList (Text.upper method.toList)

/-- The declaration of the request's options. -/
def requestOptions (payload : Option Payload) (method : String) : String :=
  match payload with
  | none => "const options: RequestInit = \x7b method: '" ++ sentMethod method ++ "' \x7d;"
  | some _ =>
    "\n".intercalate
      ["const options: RequestInit = \x7b",
       "  method: '" ++ sentMethod method ++ "',",
       "  headers: \x7b 'Content-Type': 'application/json' \x7d,",
       "  body: JSON.stringify(body),",
       "\x7d;"]

/-- The parts of the call of an operation. -/
structure Call where
  signature : String
  url : String
  queryHandling : Option String
  options : String
  deriving DecidableEq, Repr

/-- The call of an operation.  Parameters in headers and cookies are no part of it. -/
def Call.build (params : List Parameter) (path method root : String) (payload : Option Payload) :
    Call where
  signature := Action.signature (placedIn .path params) (placedIn .query params) payload
  url := urlTemplate (placedIn .path params) path root
  queryHandling := if (placedIn .query params).isEmpty then none else some queryStatements
  options := requestOptions payload method

end ServerActions.Action
