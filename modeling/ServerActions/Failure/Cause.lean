import ServerActions.Checked.Basic
import ServerActions.Json.Reader
import ServerActions.Network.Response
import ServerActions.Network.Url
import ServerActions.Text.Utf8
import ServerActions.Yaml.Fault

/-!
# Causes of failures

What can go wrong below the level of descriptions and settings: in the file system, on the
network, or in a text that is to be read.

## Main definitions

* `SystemMistake`, `SystemFault` — what the file system refuses, and for which path.
* `Cause` — one thing that went wrong.
* `Value.kindName` — how the kind of a value is called.
* `Wording`, `Cause.message` — how the parts without a text of their own are worded, and the text
  of a cause.
-/

namespace ServerActions

/-- What the file system refuses. -/
inductive SystemMistake
  | notFound
  | alreadyThere
  | notDirectory
  | isDirectory
  | nameTooLong
  deriving DecidableEq, Repr

/-- The number of a mistake of the file system. -/
def SystemMistake.number : SystemMistake → Nat
  | .notFound => 2
  | .alreadyThere => 17
  | .notDirectory => 20
  | .isDirectory => 21
  | .nameTooLong => 36

/-- The wording of a mistake of the file system. -/
def SystemMistake.message : SystemMistake → String
  | .notFound => "No such file or directory"
  | .alreadyThere => "File exists"
  | .notDirectory => "Not a directory"
  | .isDirectory => "Is a directory"
  | .nameTooLong => "File name too long"

/-- A mistake of the file system and the path it is about. -/
structure SystemFault where
  mistake : SystemMistake
  path : String
  deriving DecidableEq, Repr

/-- The text of a fault of the file system. -/
def SystemFault.message (f : SystemFault) : String :=
  "[Errno " ++ toString f.mistake.number ++ "] " ++ f.mistake.message ++ ": "
    ++ String.ofList (Text.quoted f.path.toList)

/-- One thing that went wrong. -/
inductive Cause
  /-- A value that does not fit its model. -/
  | faults (fs : List Fault)
  /-- A text that is no JSON. -/
  | json (f : Json.Fault)
  /-- A text that is no YAML. -/
  | yaml (f : Yaml.Fault)
  /-- A text that is no TOML. -/
  | toml
  /-- Octets that are no text. -/
  | encoding (f : Text.Utf8.Fault)
  /-- A step of a path that is a number but denotes none. -/
  | numeral (f : Text.NumeralFault)
  /-- A refusal of the file system. -/
  | system (f : SystemFault)
  /-- A file that is not there. -/
  | missingFile (path : String)
  /-- A path that holds the character that ends paths. -/
  | nullInPath
  /-- A failure of the network. -/
  | network (f : Network.Fault)
  /-- An answer that is no success. -/
  | status (code : Nat) (url : String)
  /-- An answer without any text. -/
  | noText (f : Network.TextFault)
  /-- A text that is no URL. -/
  | badUrl (f : Network.UrlFault)
  /-- A URL that leads to no host, by its path. -/
  | noHost (path : String)
  /-- Settings with a key that is no text. -/
  | keyKind
  /-- Settings with a key that is reserved. -/
  | reservedKey (name : String)
  /-- A value in which a table is looked for. -/
  | notTable (v : Value)
  /-- Anything else, by its text. -/
  | other (text : String)
  deriving Repr

/-- The texts that stand for the parts without a fixed wording. -/
structure Wording where
  faults : List Fault → String
  yaml : String

/-- All faults in one line, and a plain remark on YAML. -/
def Wording.plain : Wording where
  faults fs := "; ".intercalate (fs.map Fault.text)
  yaml := Yaml.Fault.malformed.message

/-- The name of the kind of a value. -/
def Value.kindName : Value → String
  | .null => "NoneType"
  | .bool _ => "bool"
  | .int _ => "int"
  | .float _ => "float"
  | .moment (.date _) => "datetime.date"
  | .moment (.clock _) => "datetime.time"
  | .moment (.point ..) => "datetime.datetime"
  | .str _ => "str"
  | .octets _ => "bytes"
  | .list _ => "list"
  | .pair .. => "tuple"
  | .set _ => "set"
  | .map _ => "dict"
  | .again _ => "object"

/-- The text of a cause. -/
def Cause.message (w : Wording) : Cause → String
  | .faults fs => w.faults fs
  | .json f => f.message
  | .yaml .malformed => w.yaml
  | .yaml f => f.message
  | .toml => "the text is no valid TOML"
  | .encoding f => f.message
  | .numeral f => f.message
  | .system f => f.message
  | .missingFile path => "File not found: " ++ path
  | .nullInPath => "embedded null byte"
  | .network f => f.text
  | .status code url => Network.statusMessage code url
  | .noText f => f.message
  | .badUrl f => f.message
  | .noHost path => "unknown url type: " ++ Network.inQuotes path
  | .keyKind => "keywords must be strings"
  | .reservedKey name =>
    "BaseSettings.__init__() got multiple values for argument '" ++ name ++ "'"
  | .notTable (.str _) => "string indices must be integers, not 'str'"
  | .notTable (.list _) => "list indices must be integers or slices, not str"
  | .notTable v => "argument of type '" ++ v.kindName ++ "' is not iterable"
  | .other text => text

end ServerActions
