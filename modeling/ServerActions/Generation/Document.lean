import ServerActions.Generation.Operation
import ServerActions.Text.Glob

/-!
# Compiling descriptions

The units of a description, one for each operation of the paths chosen, in the order in which they
are declared.

## Main definitions

* `isIncluded` — whether a path is chosen.
* `chosen` — the operations of the paths chosen.
* `collisions` — the names that several units have.
* `units` — the units of a description.
-/

namespace ServerActions.Generation

open Description (Document PathItem Operation)
open Reference (Run)

/-- Whether a text fits a pattern. -/
def fits (text pattern : String) : Bool :=
  Text.Glob.accepts pattern.toList text.toList

/-- Whether a path is chosen: it fits one of the patterns to include, where there are any, and
none of those to exclude. -/
def isIncluded (s : DocumentSettings) (path : String) : Bool :=
  let included := s.includePaths.getD []
  (included.isEmpty || included.any (fits path)) && !(s.excludePaths.getD []).any (fits path)

/-- An operation, with its path, its method and the path's own entry. -/
structure Declared where
  path : String
  method : String
  item : PathItem
  operation : Operation
  deriving Repr

/-- The operations of the paths chosen. -/
def chosen (doc : Document) (s : DocumentSettings) : List Declared :=
  (doc.contents.paths.filter fun p => isIncluded s p.1).flatMap fun p =>
    p.2.operations.map fun o => ⟨p.1, o.1, p.2, o.2⟩

/-- The units of operations. -/
def compileAll (doc : Document) (s : DocumentSettings) : List Declared → Run (List Action.Unit)
  | [] => return []
  | d :: ds => do
    let u ← compile doc s d.path d.method d.operation d.item.parameters
    return u :: (← compileAll doc s ds)

/-! ### Collisions -/

/-- An operation as it is named in messages. -/
def label (u : Action.Unit) : String :=
  Action.sentMethod u.method ++ " " ++ u.path

/-- The labels with one more under a name: after those that the name has, or at the end. -/
def addLabel (name label : String) : List (String × List String) → List (String × List String)
  | [] => [(name, [label])]
  | (n, ls) :: rest =>
    if n = name then (n, ls ++ [label]) :: rest else (n, ls) :: addLabel name label rest

/-- The labels of units by the names of these, in the order in which the names appear first. -/
def byName (us : List Action.Unit) : List (String × List String) :=
  us.foldl (fun groups u => addLabel u.name (label u) groups) []

/-- The names that several units have, with the labels of these. -/
def collisions (us : List Action.Unit) : List (String × List String) :=
  (byName us).filter fun g => 2 ≤ g.2.length

/-- The remark on a name that several operations have. -/
def collisionNotice (name : String) (labels : List String) : Notice :=
  ⟨.warning, .operations, "Identifier '" ++ name ++ "' is derived by " ++ ", ".intercalate labels
    ++ "; only the last one is kept"⟩

/-- The names that several units have are a failure, or are remarked on. -/
def checkCollisions (s : DocumentSettings) (us : List Action.Unit) : Run PUnit :=
  match collisions us with
  | [] => return ()
  | (name, labels) :: rest => do
    if s.failOnCollision then throw (.collision name labels)
    ((name, labels) :: rest).forM fun g => Run.note (collisionNotice g.1 g.2)

/-- The units of a description. -/
def units (doc : Document) (s : DocumentSettings) : Run (List Action.Unit) := do
  let us ← compileAll doc s (chosen doc s)
  checkCollisions s us
  return us

end ServerActions.Generation
