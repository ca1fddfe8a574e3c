import ServerActions.Description.Document
import ServerActions.Failure.Basic

/-!
# Checking descriptions

What was read from a source has to be a mapping of the shape of a description.

## Main definitions

* `check` — the description that a value is, or the failure that says why it is none.
-/

namespace ServerActions.Loading

open Description (Document)

/-- The error of what is no mapping. -/
def notMapping : String := "Top level of the description must be a mapping"

/-- The key by which descriptions of the older form are known. -/
def olderKey : String := "swagger"

/-- The error of a description of the older form. -/
def olderForm (version : Value) : String :=
  "Swagger " ++ version.shown ++ " documents are not supported, "
    ++ "convert the description to OpenAPI 3.x"

/-- The description that a value is. -/
def check (source : String) (v : Value) : Except Failure Document :=
  match v.fields? with
  | some fs =>
    match fs.get? olderKey with
    | some version => .error (.shape source [olderForm version])
    | none =>
      match Document.model.ofFields fs with
      | .valid doc => .ok doc
      | .invalid faults => .error (.shape source (faults.map Fault.text))
  | none => .error (.shape source [notMapping])

end ServerActions.Loading
