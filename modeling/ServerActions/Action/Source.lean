import ServerActions.Action.Call
import ServerActions.TypeScript.Comment

/-!
# The source of a server action

The module that is written for an operation: a directive, the comment and one asynchronous function
that returns the payload, or `null` when the call fails.

## Main definitions

* `Unit` — an operation made ready to be written.
* `Unit.source` — the text of its module.
* `Unit.build` — the unit of an operation.
-/

namespace ServerActions.Action

open TypeScript

/-- An operation made ready to be written. -/
structure Unit where
  name : String
  method : String
  path : String
  call : Call
  responseType : TypeExpr
  docs : List String
  deriving Repr

/-- The unit of an operation. -/
def Unit.build (name method path : String) (responseType : TypeExpr) (root : String)
    (params : List Parameter) (payload : Option Payload) (docs : List String) : Unit where
  name := name
  method := method
  path := path
  call := Call.build params path method root payload
  responseType := responseType
  docs := docs

/-- The type of what the function returns. -/
def Unit.returnType (u : Unit) : TypeExpr :=
  u.responseType.orNull

/-- The text with a margin of two blanks before each line that is not blank. -/
def indented (text : String) : String :=
  String.ofList (Text.indent [' ', ' '] text.toList)

/-- The statements that send the request. -/
def Unit.request (u : Unit) : String :=
  "\n".intercalate
    (["let url = \x60" ++ u.call.url ++ "\x60;"] ++ u.call.queryHandling.toList
      ++ [u.call.options, "const res = await fetch(url, options);"])

/-- The body of the function. -/
def Unit.body (u : Unit) : String :=
  "\n".intercalate
    ["try \x7b",
     indented u.request,
     "",
     "  if (!res.ok) \x7b",
     "    console.error(\x60API error: " ++ sentMethod u.method
       ++ " $\x7burl\x7d $\x7bres.status\x7d\x60);",
     "    return null;",
     "  \x7d",
     "",
     "  return await res.json();",
     "\x7d catch (error) \x7b",
     "  console.error(error);",
     "  return null;",
     "\x7d"]

/-- The first line of the function. -/
def Unit.header (u : Unit) : String :=
  "export async function " ++ u.name ++ "(" ++ u.call.signature ++ "): Promise<"
    ++ u.returnType.text ++ "> \x7b"

/-- The text of the unit's module. -/
def Unit.source (u : Unit) : String :=
  "\n".intercalate
    (["'use server';", ""] ++ (docComment? u.docs).toList
      ++ [u.header, indented u.body, "\x7d", ""])

end ServerActions.Action
