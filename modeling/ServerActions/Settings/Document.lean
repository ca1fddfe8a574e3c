import ServerActions.Checked.Fields
import ServerActions.Value.Outline

/-!
# Settings of a description

What is to be made of one description: where it is, where the functions go, and how they are made.

## Main definitions

* `DocumentSettings` — the settings, read from a mapping whose other entries are passed over.
-/

namespace ServerActions

/-- What is to be made of one description. -/
structure DocumentSettings where
  /-- The path or the URL of the description. -/
  source : String
  /-- The directory of the functions. -/
  output : String
  /-- The root of all URLs; without it the generated code takes it from the environment. -/
  baseUrl : Option String
  /-- The variable of the environment with the root of all URLs. -/
  baseUrlEnv : String
  /-- The ending of every file. -/
  fileExtension : String
  /-- Whether composition keywords become unions and intersections. -/
  synthesizeCompositions : Bool
  /-- Whether several operations with one name are a failure. -/
  failOnCollision : Bool
  /-- The patterns of which a path has to fit one. -/
  includePaths : Option (List String)
  /-- The patterns of which a path may fit none. -/
  excludePaths : Option (List String)
  deriving DecidableEq, Repr

namespace DocumentSettings

/-- The settings with all defaults. -/
def ofSource (source output : String) : DocumentSettings where
  source := source
  output := output
  baseUrl := none
  baseUrlEnv := "API_URL"
  fileExtension := ".ts"
  synthesizeCompositions := false
  failOnCollision := false
  includePaths := none
  excludePaths := none

/-- The settings as the entries of a mapping. -/
def model : Model DocumentSettings where
  name := "DocumentConfig"
  ofFields fs :=
    let defaults := ofSource "" ""
    DocumentSettings.mk <$> fs.required "source" [] Value.toText
      <*> fs.required "output" [] Value.toText
      <*> fs.optional "base_url" [] Value.toText
      <*> fs.withDefault "base_url_env" [] defaults.baseUrlEnv Value.toText
      <*> fs.withDefault "file_extension" [] defaults.fileExtension Value.toText
      <*> fs.withDefault "synthesize_compositions" [] defaults.synthesizeCompositions Value.toTruth
      <*> fs.withDefault "fail_on_collision" [] defaults.failOnCollision Value.toTruth
      <*> fs.optional "include_paths" [] (Value.toListOf Value.toText)
      <*> fs.optional "exclude_paths" [] (Value.toListOf Value.toText)

open Outline in
/-- The outline of the settings. -/
def outline (s : DocumentSettings) : Outline :=
  .model model.name
    ([("source", text s.source), ("output", text s.output)]
      ++ field "base_url" text s.baseUrl
      ++ [("base_url_env", text s.baseUrlEnv), ("file_extension", text s.fileExtension),
          ("synthesize_compositions", truth s.synthesizeCompositions),
          ("fail_on_collision", truth s.failOnCollision)]
      ++ field "include_paths" texts s.includePaths
      ++ field "exclude_paths" texts s.excludePaths)
    []

end DocumentSettings

end ServerActions
