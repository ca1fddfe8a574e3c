import ServerActions.Console.Run

/-!
# Footprints

The paths that a run looks at or writes to, as far as they can be told from the files known so
far.  The settings name the descriptions, and the descriptions name the modules, so that each look
at the files makes more of the footprint known; after the third all of it is.

## Main definitions

* `footprint` — the paths of a run.
-/

namespace ServerActions.Console

open Files (Path)
open Settings (Surroundings)

/-- The paths where the settings are looked for. -/
def settingsPaths (s : Surroundings) (o : Options) : List Path :=
  match o.source, o.output, o.config with
  | none, none, some path => [.ofText path]
  | none, none, none => (Settings.fileNames ++ [Settings.projectFile]).map (Settings.here s)
  | _, _, _ => []

/-- The paths of the descriptions and of their directories. -/
def documentPaths (s : Surroundings) (o : Options) : List Path :=
  match settingsFor s o with
  | .ok settings => settings.documents.flatMap fun d => [.ofText d.source, .ofText d.output]
  | .error _ => []

/-- The paths that a run writes to. -/
def writtenPaths (w : Wording) (s : Surroundings) (fetch : Loading.Fetch) (words : List String) :
    List Path :=
  ((run w s fetch words).tree.changesSince s.tree).map fun e => ⟨"/", e.1⟩

/-- The paths of a run, as far as the files known so far tell them. -/
def footprint (w : Wording) (s : Surroundings) (fetch : Loading.Fetch) (words : List String) :
    List Path :=
  match Command.ofArguments words with
  | some (.generate o) =>
    settingsPaths s o ++ documentPaths s o ++ writtenPaths w s fetch words
  | _ => []

end ServerActions.Console
