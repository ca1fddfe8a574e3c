/-!
# Places of parameters

Where a parameter of an operation is sent.

## Main definitions

* `Place`, `Place.name`, `Place.ofName?` — the four places and their names.
-/

namespace ServerActions

/-- Where a parameter is sent. -/
inductive Place
  | query
  | path
  | header
  | cookie
  deriving DecidableEq, Repr, Inhabited

/-- The name of a place. -/
def Place.name : Place → String
  | .query => "query"
  | .path => "path"
  | .header => "header"
  | .cookie => "cookie"

/-- The place of a name. -/
def Place.ofName? (name : String) : Option Place :=
  [Place.query, .path, .header, .cookie].find? fun p => p.name = name

@[simp] theorem Place.ofName?_name (p : Place) : Place.ofName? p.name = some p := by
  cases p <;> rfl

end ServerActions
