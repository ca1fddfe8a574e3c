import ServerActions.Loading.File
import ServerActions.Settings.Basic
import ServerActions.Toml.Reader

/-!
# Settings files

## Main definitions

* `Surroundings` — the files, the working directory and the environment.
* `fromFile` — the settings in a file.
* `findWith`, `find` — the settings in the file given, or in the first file of the working directory
  that has some.
-/

namespace ServerActions.Settings

open Files (Path Trail Tree)
open Loading (Format)

/-- What the settings are looked for in. -/
structure Surroundings where
  tree : Tree
  cwd : Trail
  environment : Environment

/-- The form of a settings file: YAML unless its name ends as those of JSON files do. -/
def fileFormat (p : Path) : Format :=
  if p.extension = ".json" then .json else .yaml

/-- A failure of reading a file as it is. -/
def bare {α : Type} (r : Except Cause α) : Except Failure α :=
  r.mapError .bare

/-- The text of a file. -/
def textOf (s : Surroundings) (p : Path) : Except Failure (List Char) :=
  bare (s.tree.read s.cwd p >>= Loading.fileText)

/-- Whether a path leads anywhere. -/
def exists? (s : Surroundings) (p : Path) : Except Failure Bool :=
  bare (Loading.exists? s.tree s.cwd p)

/-- The settings in a file. -/
def fromFile (library : Library) (s : Surroundings) (p : Path) : Except Failure Settings := do
  if !(← exists? s p) then throw (.configuration .noSuchFile (some p.text) none)
  let text ← textOf s p
  let v ← bare ((fileFormat p).read text)
  if !v.isMapping then throw (.configuration .notMapping (some p.text) none)
  checkWith library s.environment p.text v

/-! ### The working directory -/

/-- The names of the settings files in the order in which they are looked for. -/
def fileNames : List String := ["actiongen.yaml", "actiongen.yml"]

/-- The project file, which may hold the settings too. -/
def projectFile : String := "pyproject.toml"

/-- The table of the project file that holds the tables of tools. -/
def toolsTable : String := "tool"

/-- The table with the settings. -/
def settingsTable : String := "actiongen"

/-- A file of the working directory. -/
def here (s : Surroundings) (name : String) : Path := ⟨"/", s.cwd ++ [name]⟩

/-- The reading of a project file. -/
def projectFields (cs : List Char) : Except Cause Fields :=
  (Toml.read cs).mapError fun f =>
    match f with
    | .malformed => .toml
    | .tooLong f => .numeral f
    -- Collections too deep inside one another are refused alike whatever the language.
    | .tooDeep => .yaml .tooDeep

/-- Whether a value is the name of the table with the settings. -/
def namesSettings (v : Value) : Bool :=
  v matches .str "actiongen"

/-- The table with the settings among the tables of tools.  Anything else in their place is
refused when the table is looked for in it. -/
def settingsIn (tools : Value) : Except Cause (Option Value) :=
  match tools with
  | .map fs => .ok (Fields.get? fs settingsTable)
  | .list vs => if vs.any namesSettings then .error (.notTable tools) else .ok none
  | .str t =>
    if Text.occursIn settingsTable.toList t.toList then .error (.notTable tools) else .ok none
  | _ => .error (.notTable tools)

/-- The settings in the project file, if it has some. -/
def fromProject (library : Library) (s : Surroundings) (p : Path) :
    Except Failure (Option Settings) := do
  let text ← textOf s p
  let fs ← bare (projectFields text)
  match ← bare (settingsIn ((Fields.get? fs toolsTable).getD (.map []))) with
  | some v => return some (← checkWith library s.environment p.text v)
  | none => return none

/-- The first of some files that is there. -/
def firstThere (s : Surroundings) : List Path → Except Failure (Option Path)
  | [] => .ok none
  | p :: ps => do
    if ← exists? s p then return some p
    firstThere s ps

/-- The settings in the file given, or in the first file of the working directory that has some. -/
def findWith (library : Library) (s : Surroundings) (given : Option String) :
    Except Failure Settings := do
  match given.filter (· ≠ "") with
  | some path => fromFile library s (.ofText path)
  | none =>
    match ← firstThere s (fileNames.map (here s)) with
    | some p => fromFile library s p
    | none =>
      let p := here s projectFile
      if ← exists? s p then
        if let some settings ← fromProject library s p then return settings
      throw (.configuration .nothingFound none none)

/-- The settings that are found, if they direct nothing but how the environment is consulted. -/
def find (s : Surroundings) (given : Option String) : Except Failure Settings :=
  findWith (.plain s.environment) s given

end ServerActions.Settings
