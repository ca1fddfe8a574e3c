import ServerActions.Number.Shortest
import ServerActions.Text.Quoted
import ServerActions.Value.Basic

/-!
# The spelling of values in messages

A text stands for itself when it is the whole of a value, and between quotes inside a list or a
mapping.  The absent value is spelled `None` and the truth values `True` and `False`.

## Main definitions

* `Value.spelled` — a value inside another.
* `Value.shown` — a value on its own.
* `Key.shown` — a key on its own.
-/

namespace ServerActions

/-- The spelling of a truth value. -/
def spelledBool (b : Bool) : String :=
  if b then "True" else "False"

/-- The spelling of a key inside a mapping. -/
def Key.spelled : Key → String
  | .null => "None"
  | .bool b => spelledBool b
  | .int n => toString n
  | .float x => x.text
  | .moment m => m.detailed
  | .str s => String.ofList (Text.quoted s.toList)
  | .octets bs => String.ofList (Text.quotedOctets bs)

/-- The spelling of a key on its own. -/
def Key.shown : Key → String
  | .str s => s
  | .moment m => m.text
  | k => k.spelled

/-- Parts between braces. -/
def inBraces (parts : List String) : String :=
  "\x7b" ++ ", ".intercalate parts ++ "\x7d"

/-- Parts between brackets. -/
def inBrackets (parts : List String) : String :=
  "[" ++ ", ".intercalate parts ++ "]"

/-- What stands for the parts of a list or a mapping inside itself. -/
def elided : List String := ["..."]

mutual
/-- The spelling of a value inside another.  `above` has the spellings of the lists and mappings
around it for when they come again. -/
def Value.spelledIn (above : List String) : Value → String
  | .null => Key.null.spelled
  | .bool b => (Key.bool b).spelled
  | .int n => (Key.int n).spelled
  | .float x => (Key.float x).spelled
  | .moment m => (Key.moment m).spelled
  | .str s => (Key.str s).spelled
  | .octets bs => (Key.octets bs).spelled
  | .list items => inBrackets (spelledItems (inBrackets elided :: above) items)
  | .pair k v => "(" ++ k.spelledIn above ++ ", " ++ v.spelledIn above ++ ")"
  | .set members => if members.isEmpty then "set()" else inBraces (members.map Key.spelled)
  | .map fields => inBraces (spelledFields (inBraces elided :: above) fields)
  | .again level => (above[level]?).getD ""
termination_by structural v => v

/-- The spellings of the items of a list. -/
def spelledItems (above : List String) : List Value → List String
  | [] => []
  | v :: vs => v.spelledIn above :: spelledItems above vs
termination_by structural vs => vs

/-- The spellings of the entries of a mapping. -/
def spelledFields (above : List String) : List (Key × Value) → List String
  | [] => []
  | f :: fs => spelledField above f :: spelledFields above fs
termination_by structural fs => fs

/-- The spelling of an entry of a mapping. -/
def spelledField (above : List String) : Key × Value → String
  | (k, v) => k.spelled ++ ": " ++ v.spelledIn above
termination_by structural f => f
end

/-- The spelling of a value inside another. -/
def Value.spelled (v : Value) : String :=
  v.spelledIn []

/-- The spelling of a value on its own. -/
def Value.shown : Value → String
  | .str s => s
  | .moment m => m.text
  | v => v.spelled

end ServerActions
