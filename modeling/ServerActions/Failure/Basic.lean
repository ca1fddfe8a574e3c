import ServerActions.Failure.Cause

/-!
# Failures

How generating the functions of a description can fail, and how that is put into words.

## Main definitions

* `Reason` — why a reference cannot be followed.
* `Misconfiguration` — what is wrong with the settings.
* `Failure`, `Failure.message` — a failure and its text.
-/

namespace ServerActions

/-- Why a reference cannot be followed. -/
inductive Reason
  /-- It points to another document on the network. -/
  | external
  /-- It does not start at the root of the document. -/
  | notLocal
  /-- There is nothing at a place on its way. -/
  | noSuchPlace (walked : String)
  /-- Its target is no mapping where a schema is looked for. -/
  | notSchema
  /-- Its target is no schema. -/
  | invalidSchema (faults : List Fault)
  /-- It leads back to itself along a chain of references. -/
  | circular (chain : List String)
  /-- Its target is no mapping where an object is looked for. -/
  | notObject (model : String)
  /-- Its target is no object of the kind looked for. -/
  | invalidObject (model : String) (faults : List Fault)
  /-- Anything else, by its text. -/
  | other (text : String)
  deriving DecidableEq, Repr

/-- The text of a reason. -/
def Reason.message (w : Wording) : Reason → String
  | .external =>
    "External URL references are not supported. Consider inlining the referenced schema."
  | .notLocal =>
    "Only local references starting with #/ are supported. "
      ++ "Consider using a tool to bundle your OpenAPI description."
  | .noSuchPlace walked => "'" ++ walked ++ "' does not exist"
  | .notSchema => "Target is not a schema object"
  | .invalidSchema fs => "Target is not a valid schema: " ++ w.faults fs
  | .circular chain => "Circular reference chain: " ++ " -> ".intercalate chain
  | .notObject model => "Target is not a " ++ model ++ " object"
  | .invalidObject model fs => "Target is not a valid " ++ model ++ ": " ++ w.faults fs
  | .other text => text

/-- What is wrong with the settings. -/
inductive Misconfiguration
  | noSuchFile
  | notMapping
  | invalid (faults : List Fault)
  | nothingFound
  | incomplete
  | other (text : String)
  deriving DecidableEq, Repr

/-- The text of what is wrong with the settings. -/
def Misconfiguration.message (w : Wording) : Misconfiguration → String
  | .noSuchFile => "Configuration file not found"
  | .notMapping => "Configuration must be a mapping"
  | .invalid fs => "Invalid configuration: " ++ w.faults fs
  | .nothingFound =>
    "No configuration found. Create actiongen.yaml, add [tool.actiongen] "
      ++ "to pyproject.toml, or pass --source and --output"
  | .incomplete => "--source and --output must be given together"
  | .other text => text

/-- A failure. -/
inductive Failure
  /-- A failure of no particular kind. -/
  | general (text : String)
  /-- A failure about a description, of no particular kind. -/
  | description (text : String)
  /-- A description that cannot be read. -/
  | load (source : String) (cause : Option Cause)
  /-- A description of a shape that the model does not have. -/
  | shape (source : String) (errors : List String)
  /-- A reference that cannot be followed. -/
  | reference (target : String) (reason : Option Reason)
  /-- A failure while code is generated. -/
  | generation (text : String) (context : Option String) (cause : Option Cause)
  /-- Several operations with one name. -/
  | collision (name : String) (operations : List String)
  /-- Settings that cannot be used. -/
  | configuration (wrong : Misconfiguration) (path field : Option String)
  /-- Output that cannot be written. -/
  | output (path : String) (cause : Option Cause)
  /-- A cause that no kind of failure accounts for. -/
  | bare (cause : Cause)
  deriving Repr

/-- The addition for a cause, if there is one. -/
def causeSuffix (w : Wording) : Option Cause → String
  | some c => ": " ++ c.message w
  | none => ""

/-- A text unless it is empty or absent, put into its place. -/
def unlessEmpty (t : Option String) (f : String → String) : String :=
  match t with
  | some s => if s.isEmpty then "" else f s
  | none => ""

/-- The text of a failure. -/
def Failure.message (w : Wording) : Failure → String
  | .general text => text
  | .description text => text
  | .load source cause => "Failed to load schema from '" ++ source ++ "'" ++ causeSuffix w cause
  | .shape source errors =>
    "Schema validation failed for '" ++ source ++ "'"
      ++ (if errors.isEmpty then "" else ": " ++ "; ".intercalate errors)
  | .reference target reason =>
    "Failed to resolve reference '" ++ target ++ "'"
      ++ unlessEmpty (reason.map (Reason.message w)) (": " ++ ·)
  | .generation text context cause =>
    text ++ unlessEmpty context (fun c => " (while generating " ++ c ++ ")") ++ causeSuffix w cause
  | .collision name operations =>
    "Identifier '" ++ name ++ "' is derived by more than one operation: "
      ++ ", ".intercalate operations
  | .configuration wrong path field =>
    wrong.message w ++ unlessEmpty path (fun p => " in '" ++ p ++ "'")
      ++ unlessEmpty field (fun f => " (field: " ++ f ++ ")")
  | .output path cause => "Failed to write output to '" ++ path ++ "'" ++ causeSuffix w cause
  | .bare cause => cause.message w

end ServerActions
