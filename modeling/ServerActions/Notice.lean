/-!
# Notices

What is remarked on the way, without being a failure.

## Main definitions

* `Level`, `Topic`, `Notice` — how much a remark matters, what it is about, and the remark.
-/

namespace ServerActions

/-- How much a remark matters. -/
inductive Level
  | debug
  | info
  | warning
  deriving DecidableEq, Repr

/-- The name of a level. -/
def Level.name : Level → String
  | .debug => "DEBUG"
  | .info => "INFO"
  | .warning => "WARNING"

/-- What a remark is about. -/
inductive Topic
  | schemas
  | operations
  | files
  deriving DecidableEq, Repr

/-- A remark. -/
structure Notice where
  level : Level
  topic : Topic
  text : String
  deriving DecidableEq, Repr

/-- A remark in one line. -/
def Notice.line (n : Notice) : String :=
  n.level.name ++ " " ++ n.text

end ServerActions
