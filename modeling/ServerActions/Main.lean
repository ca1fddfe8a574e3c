import ServerActions.Console.Footprint

/-!
# The program

The outer layer: the files on the footprint of a run are looked at, and what comes of the run is
printed and written.  What happens is decided by `Console.run` alone.
-/

namespace ServerActions.Console

open Files (Entry Path Trail Tree)
open Settings (Surroundings)

/-- A text from the system, whose characters stand for themselves. -/
def fromSystem (s : String) : String :=
  String.ofList (Text.spellingOf s.toList)

/-- The characters of a text for the system, which knows no surrogates. -/
def toSystem (s : String) : String :=
  String.ofList ((Text.points s.toList).map fun n =>
    if Text.isSurrogate n then '\uFFFD' else Char.ofNat n)

/-- The name by which the system knows a trail. -/
def systemPath (trail : Trail) : IO String :=
  let name := Path.text ⟨"/", trail⟩
  if Text.hasSurrogates name.toList then throw (IO.userError "a name that is no text")
  else return toSystem name

/-- What there is at the end of a trail whose last name is in a directory. -/
def entryAt (trail : Trail) : IO (Option Entry) := do
  match ← (do IO.FS.readBinFile (← systemPath trail)).toBaseIO with
  | .ok content => return some (.file content)
  | .error (.inappropriateType ..) => return some .directory
  | .error (.noFileOrDirectory ..) => return none
  | .error e => throw e

/-- The tree with everything on the way from a directory along some parts. -/
def survey (t : Tree) (start : Trail) : List String → IO Tree
  | [] => return t
  | part :: rest => do
    if part = ".." then return ← survey t start.dropLast rest
    let trail := start ++ [part]
    if Files.maxNameSize < Text.nameSize part then return t
    match ← (if (t.get? trail).isSome then pure (t.get? trail) else entryAt trail) with
    | some .directory => survey (t.set trail .directory) trail rest
    | some e => return t.set trail e
    | none => return t

/-- The surroundings with everything on the way of a path. -/
def surveyPath (s : Surroundings) (p : Path) : IO Surroundings := do
  if p.fault?.isSome then return s
  let tree ← survey s.tree (if p.isAbsolute then [] else s.cwd) p.parts
  return { s with tree := tree }

/-- The changes of a run are made. -/
def apply (changes : List (Trail × Entry)) : IO Unit :=
  changes.forM fun e => do
    let path ← systemPath e.1
    match e.2 with
    | .directory => IO.FS.createDirAll path
    | .file content => IO.FS.writeBinFile path content

/-- Nothing is asked for over the network. -/
def offline : Loading.Fetch := fun _ => .error .offline

/-- What can be asked for. -/
def usage : String :=
  "Usage: actiongen generate [-c FILE] [-s SOURCE -o DIRECTORY] [-v]\n       actiongen version"

/-- The program with some words: the exit code after everything was printed and written. -/
def program (words : List String) : IO UInt32 := do
  let words := words.map fromSystem
  let cwd := (Path.ofText (fromSystem (← IO.currentDir).toString)).parts
  let environment := match ← IO.getEnv "ACTIONGEN_DOCUMENTS" with
    | some text => [("ACTIONGEN_DOCUMENTS", fromSystem text)]
    | none => []
  let mut s ← surveyPath ⟨⟨[]⟩, cwd, environment⟩ ⟨"/", cwd⟩
  for _ in [1, 2, 3] do
    for p in footprint .plain s offline words do
      s ← surveyPath s p
  let report := run .plain s offline words
  if report.exitCode = usageCode then IO.eprintln usage
  report.lines.forM fun line => IO.println (toSystem line)
  apply (report.tree.changesSince s.tree)
  return report.exitCode.toUInt32

end ServerActions.Console

/-- The program. -/
def main (words : List String) : IO UInt32 :=
  ServerActions.Console.program words
