import ServerActions.Failure.Basic
import ServerActions.Json.Reader
import ServerActions.Settings.Document
import ServerActions.Text.Case

/-!
# Settings

The descriptions that are to be processed, from a settings file, from the environment or from
options.

## Main definitions

* `Settings` — the settings of all descriptions.
* `Environment` — the variables of the environment.
* `Lookup` — how the environment is consulted, which a mapping of settings may direct.
* `Settings.Library` — what comes of a mapping that directs more than that.
* `Settings.ofFields`, `Settings.check` — the settings in a mapping, and in a value from a file.

A mapping of settings may direct how it is read: the library behind the settings takes some of its
keys for arguments.  Only those about the environment are followed here.  The others have further
files or directories read, or the command line, and what comes of them is a parameter.
-/

namespace ServerActions

/-- The settings of all descriptions. -/
structure Settings where
  documents : List DocumentSettings
  deriving DecidableEq, Repr

/-- The variables of the environment with their values. -/
abbrev Environment := List (String × String)

namespace Settings

/-- The name of the settings as a model. -/
def modelName : String := "CodegenConfig"

/-- The only field. -/
def documentsField : String := "documents"

/-- Whether two names are the same but for capitals. -/
def sameName (a b : String) : Bool :=
  Text.lowerAscii a.toList == Text.lowerAscii b.toList

/-! ### Directions -/

/-- How the environment is consulted for a field that the file does not have. -/
structure Lookup where
  /-- What the name of the variable begins with, before the name of the field; it has to be a
  text. -/
  start : Value
  /-- Whether capitals count in the name of the variable. -/
  isExact : Bool
  /-- Whether an empty variable counts as none. -/
  skipsEmpty : Bool
  /-- The text that stands for an absent value. -/
  absentText : Option String
  deriving Repr

/-- The environment is consulted for `ACTIONGEN_DOCUMENTS`, whatever its capitals are. -/
def Lookup.usual : Lookup := ⟨.str "ACTIONGEN_", false, false, none⟩

/-- The keys of a mapping of settings that say how the settings are read.  They are no settings
themselves. -/
def directionNames : List String :=
  ["_case_sensitive", "_nested_model_default_partial_update", "_env_prefix", "_env_prefix_target",
   "_env_file", "_env_file_encoding", "_env_ignore_empty", "_env_nested_delimiter",
   "_env_nested_max_split", "_env_parse_none_str", "_env_parse_enums", "_cli_prog_name",
   "_cli_parse_args", "_cli_settings_source", "_cli_parse_none_str", "_cli_hide_none_type",
   "_cli_avoid_json", "_cli_enforce_required", "_cli_use_class_docs_for_groups",
   "_cli_exit_on_error", "_cli_prefix", "_cli_flag_prefix_char", "_cli_implicit_flags",
   "_cli_ignore_unknown_args", "_cli_kebab_case", "_cli_shortcuts", "_secrets_dir",
   "_build_sources"]

/-- The key that no mapping of settings may have. -/
def reservedName : String := "__pydantic_self__"

/-- The value of a direction, if it is given and not null. -/
def direction? (fs : Fields) (name : String) : Option Value :=
  (Fields.get? fs name).filter fun v => !v.isNull

/-- The directions about the environment. -/
def lookupNames : List String :=
  ["_env_prefix", "_case_sensitive", "_env_ignore_empty", "_env_parse_none_str"]

/-- Whether a mapping of settings directs more than how the environment is consulted. -/
def isDirected (fs : Fields) : Bool :=
  directionNames.any fun name => !lookupNames.contains name && (direction? fs name).isSome

/-- How a mapping of settings has the environment consulted. -/
def Lookup.ofFields (fs : Fields) : Lookup where
  start := (direction? fs "_env_prefix").getD Lookup.usual.start
  isExact := (direction? fs "_case_sensitive").any Value.isSubstantial
  skipsEmpty := (direction? fs "_env_ignore_empty").any Value.isSubstantial
  absentText := match direction? fs "_env_parse_none_str" with
    | some (.str s) => some s
    | _ => none

/-- The value of the field in the environment, as JSON; null counts as none. -/
def fromEnvironment (l : Lookup) (env : Environment) : Except Complaint (Option Value) :=
  match l.start with
  | .str start =>
    let name := start ++ documentsField
    let named (e : String × String) : Bool := if l.isExact then e.1 = name else sameName e.1 name
    match (env.filter fun e => !(l.skipsEmpty && e.2.isEmpty)).reverse.find? named with
    | none => .ok none
    | some (_, text) =>
      if l.absentText = some text then .ok (some .null)
      else match Json.read text.toList with
        | .ok .null => .ok none
        | .ok v => .ok (some v)
        | .error _ => .error (.environmentUnreadable documentsField)
  | _ => .error (.environmentUnnamed documentsField)

/-! ### Reading -/

/-- Whether a key is the name of the field but for capitals. -/
def isDocumentsKey (k : Key) : Bool :=
  (k.str?.map (sameName documentsField)).getD false

/-- The value of the field in a mapping: under the first key that is its name but for capitals. -/
def given? (fs : Fields) : Option Value :=
  (List.find? (fun f => isDocumentsKey f.1) fs).map Prod.snd

/-- The complaints about entries that are not foreseen. -/
def unforeseen (fs : Fields) : List Fault :=
  (fs.filterMap fun f => f.1.str?).filter
      (fun name => !sameName documentsField name && !directionNames.contains name)
    |>.map fun name => ⟨[name], .notForeseen⟩

/-- The settings in a mapping. -/
def ofFields (env : Environment) (fs : Fields) : Checked Settings :=
  match fromEnvironment (.ofFields fs) env with
  | .error c => .fault c
  | .ok fallback =>
    let documents : Checked (List DocumentSettings) :=
      match (given? fs).or fallback with
      | some v => (v.toListOf DocumentSettings.model.read).under documentsField
      | none => (Checked.fault .missing).under documentsField
    let rest : Checked Unit :=
      if (unforeseen fs).isEmpty then .valid () else .invalid (unforeseen fs)
    fs.ifNamed ((documents.map fun ds _ => Settings.mk ds).apply rest)

/-- What forbids a mapping to be one of settings: a key that is no text, or a reserved one. -/
def forbidden? (fs : Fields) : Option Cause :=
  if fs.any fun f => f.1.str?.isNone then some .keyKind
  else if Fields.has fs reservedName then some (.reservedKey reservedName)
  else none

/-- What comes of a mapping that directs more than how the environment is consulted. -/
abbrev Library := Fields → Except Cause (Checked Settings)

/-- Such directions change nothing. -/
def Library.plain (env : Environment) : Library :=
  fun fs => .ok (ofFields env fs)

/-- The settings in a mapping that may direct anything. -/
def read (library : Library) (env : Environment) (fs : Fields) : Except Cause (Checked Settings) :=
  match forbidden? fs with
  | some c => .error c
  | none => if isDirected fs then library fs else .ok (ofFields env fs)

/-- The settings in a value that was read from a file. -/
def checkWith (library : Library) (env : Environment) (path : String) (v : Value) :
    Except Failure Settings :=
  let checked : Except Cause (Checked Settings) :=
    match v.fields? with
    | some fs => read library env fs
    | none => .ok (.fault (.notModel modelName))
  match checked with
  | .error c => .error (.bare c)
  | .ok (.valid s) => .ok s
  | .ok (.invalid faults) => .error (.configuration (.invalid faults) (some path) none)

/-- The settings in a value that directs nothing but how the environment is consulted. -/
def check (env : Environment) : String → Value → Except Failure Settings :=
  checkWith (.plain env) env

open Outline in
/-- The outline of the settings. -/
def outline (s : Settings) : Outline :=
  .model modelName [(documentsField, .list (s.documents.map DocumentSettings.outline))] []

end Settings

end ServerActions
