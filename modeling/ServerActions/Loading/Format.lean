import ServerActions.Failure.Cause
import ServerActions.Json.Reader
import ServerActions.Text.Lines
import ServerActions.Yaml.Reader

/-!
# Formats

The two forms that a description can be written in, and how octets in one of them are read.

## Main definitions

* `Format`, `Format.read` — JSON and YAML, and the value that a text in one of them denotes.
* `textOf` — the text that octets encode.
-/

namespace ServerActions.Loading

/-- The form that a text is written in. -/
inductive Format
  | json
  | yaml
  deriving DecidableEq, Repr

/-- The value that a text denotes. -/
def Format.read (f : Format) (cs : List Char) : Except Cause Value :=
  match f with
  | .json => (Json.read cs).mapError .json
  | .yaml => (Yaml.read cs).mapError .yaml

/-- The endings of the names of YAML files. -/
def yamlExtensions : List String := [".yaml", ".yml"]

/-- The text that octets encode. -/
def textOf (octets : ByteArray) : Except Cause (List Char) :=
  match Text.Utf8.decode octets.toList with
  | .ok cs => .ok (Text.spellingOf cs)
  | .error f => .error (.encoding f)

/-- The text of a file, in which every line ends with a line feed. -/
def fileText (octets : ByteArray) : Except Cause (List Char) :=
  (textOf octets).map Text.withLineFeeds

end ServerActions.Loading
