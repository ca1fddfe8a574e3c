import ServerActions.Files.Tree
import ServerActions.Loading.Check
import ServerActions.Loading.Format

/-!
# Loading descriptions from files

## Main definitions

* `fileFormat` — the form of a file, which its name shows.
* `exists?` — whether a path leads anywhere.
* `fromFile` — the description in a file.
-/

namespace ServerActions.Loading

open Description (Document)
open Files (Path Trail Tree)

/-- The form of a description in a file: JSON unless its name ends as those of YAML files do. -/
def fileFormat (p : Path) : Format :=
  if yamlExtensions.contains p.extension then .yaml else .json

/-- Whether a path leads anywhere.  A name that is too long is refused. -/
def exists? (t : Tree) (cwd : Trail) (p : Path) : Except Cause Bool :=
  if p.fault?.isSome then .ok false
  else match t.find cwd p with
    | .ok _ => .ok true
    | .error .nameTooLong => .error (Files.refusal p .nameTooLong)
    | .error _ => .ok false

/-- The value that the file at a path denotes. -/
def fileValue (t : Tree) (cwd : Trail) (p : Path) : Except Cause Value := do
  if !(← exists? t cwd p) then throw (.missingFile p.text)
  (fileFormat p).read (← fileText (← t.read cwd p))

/-- The description in a file.  Its path is taken from `base`. -/
def fromFile (t : Tree) (cwd : Trail) (base : Path) (source : String) : Except Failure Document :=
  match fileValue t cwd (base.join (.ofText source)) with
  | .ok v => check source v
  | .error c => .error (.load source c)

end ServerActions.Loading
