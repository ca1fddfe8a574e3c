import ServerActions.Text.Split

/-!
# Paths

Paths of files in their plain form: without empty parts and without parts that stay in place.

## Main definitions

* `Path`, `Path.ofText`, `Path.text` — a path, read from a text and written.
* `Path.join` — a path taken from where another leads.
* `Path.parent`, `Path.extension` — the path without its last part, and the ending of that part.
-/

namespace ServerActions.Files

/-- A path: nothing or slashes at its start, and the parts between slashes. -/
structure Path where
  root : String
  parts : List String
  deriving DecidableEq, Repr, Inhabited

/-- The slashes at the start of a path: two of them are kept, and more count as one. -/
def rootOf (cs : List Char) : String :=
  match (cs.takeWhile (· == '/')).length with
  | 0 => ""
  | 2 => "//"
  | _ => "/"

/-- The parts of a text that lead somewhere. -/
def partsOf (cs : List Char) : List String :=
  ((Text.cut '/' cs).map String.ofList).filter fun p => p ≠ "" && p ≠ "."

/-- The path of a text. -/
def Path.ofText (s : String) : Path :=
  ⟨rootOf s.toList, partsOf s.toList⟩

/-- A path as it is written. -/
def Path.text (p : Path) : String :=
  if p.root = "" && p.parts.isEmpty then "." else p.root ++ "/".intercalate p.parts

/-- Whether a path starts at the root. -/
def Path.isAbsolute (p : Path) : Bool :=
  p.root ≠ ""

/-- A path taken from where another leads; one from the root stands for itself. -/
def Path.join (base p : Path) : Path :=
  if p.isAbsolute then p else ⟨base.root, base.parts ++ p.parts⟩

/-- The path without its last part. -/
def Path.parent (p : Path) : Path :=
  ⟨p.root, p.parts.dropLast⟩

/-- The last part of a path. -/
def Path.name (p : Path) : String :=
  p.parts.getLast?.getD ""

/-- The ending of a name from its last point, unless that is the first or the last character. -/
def extensionOf (cs : List Char) : List Char :=
  let after := (cs.reverse.takeWhile (· != '.')).reverse
  let before := cs.take (cs.length - after.length - 1)
  if after.isEmpty || before.isEmpty || after.length = cs.length then [] else '.' :: after

/-- The ending of the last part of a path, in lower case. -/
def Path.extension (p : Path) : String :=
  String.ofList ((extensionOf p.name.toList).map Char.toLower)

end ServerActions.Files
