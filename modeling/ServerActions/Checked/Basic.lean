import ServerActions.Text.Digit
import ServerActions.Value.Spelling

/-!
# Checked values

What is read from a value comes either as a result or as all the faults found, each with its
location.

## Main definitions

* `Complaint`, `Fault` — what is wrong, and where.
* `Checked` — a result, or faults; the faults of two parts are put together.
* `Checked.under` — the faults moved below a step of the location.
-/

namespace ServerActions

/-- What can be wrong with a part of a value. -/
inductive Complaint
  | missing
  | notText
  /-- Octets that denote no text. -/
  | unreadableText
  | notMapping
  /-- No mapping where the parts of a model are looked for. -/
  | notModel (name : String)
  | notList
  | notPlace
  /-- No truth value, and of no kind that could stand for one. -/
  | notTruth
  /-- Of a kind that can stand for a truth value, but neither. -/
  | unclearTruth
  | keyNotText
  /-- A key is a number with more digits than can be written out. -/
  | keyTooLong
  /-- A part of a schema that is the schema itself, or lies too deep in it. -/
  | withinItself
  | notForeseen
  /-- The settings found in the environment are no JSON. -/
  | environmentUnreadable (field : String)
  /-- The name of the variable with the settings is no text. -/
  | environmentUnnamed (field : String)
  deriving DecidableEq, Repr

/-- The wording of a complaint. -/
def Complaint.message : Complaint → String
  | .missing => "Field required"
  | .notText => "Input should be a valid string"
  | .unreadableText =>
    "Input should be a valid string, unable to parse raw data as a unicode string"
  | .notMapping => "Input should be a valid dictionary"
  | .notModel name => "Input should be a valid dictionary or instance of " ++ name
  | .notList => "Input should be a valid list"
  | .notPlace => "Input should be 'query', 'path', 'header' or 'cookie'"
  | .notTruth => "Input should be a valid boolean"
  | .unclearTruth => "Input should be a valid boolean, unable to interpret input"
  | .keyNotText => "Keys should be strings"
  | .keyTooLong =>
    s!"Value error, Exceeds the limit ({Text.maxNumeralDigits} digits) for integer string "
      ++ "conversion; use sys.set_int_max_str_digits() to increase the limit"
  | .withinItself => "Recursion error - cyclic reference detected"
  | .notForeseen => "Extra inputs are not permitted"
  | .environmentUnreadable field =>
    "Value error, error parsing value for field \"" ++ field
      ++ "\" from source \"EnvSettingsSource\""
  | .environmentUnnamed field =>
    "Value error, error getting value for field \"" ++ field
      ++ "\" from source \"EnvSettingsSource\""

/-- A complaint and the steps that lead to the part it is about. -/
structure Fault where
  location : List String
  complaint : Complaint
  deriving DecidableEq, Repr

/-- The fault with its location in one line. -/
def Fault.text (f : Fault) : String :=
  ".".intercalate f.location ++ ": " ++ f.complaint.message

/-- A result, or the faults found. -/
inductive Checked (α : Type)
  | valid (a : α)
  | invalid (faults : List Fault)
  deriving Repr

namespace Checked

variable {α β : Type}

/-- A function of one result. -/
protected def map (f : α → β) : Checked α → Checked β
  | .valid a => .valid (f a)
  | .invalid fs => .invalid fs

/-- A function applied to its argument; when both have faults, those of the function come first. -/
protected def apply (f : Checked (α → β)) (a : Checked α) : Checked β :=
  match f, a with
  | .valid f, .valid a => .valid (f a)
  | .valid _, .invalid fs => .invalid fs
  | .invalid fs, .valid _ => .invalid fs
  | .invalid fs, .invalid gs => .invalid (fs ++ gs)

instance : Functor Checked where
  map := Checked.map

instance : Applicative Checked where
  pure := .valid
  seq f a := f.apply (a ())

/-- A single fault at the place itself. -/
def fault (c : Complaint) : Checked α :=
  .invalid [⟨[], c⟩]

/-- The faults moved below a step of the location. -/
def under (step : String) : Checked α → Checked α
  | .valid a => .valid a
  | .invalid fs => .invalid (fs.map fun f => { f with location := step :: f.location })

/-- The result, if there is one. -/
def toOption : Checked α → Option α
  | .valid a => some a
  | .invalid _ => none

@[simp] theorem toOption_valid (a : α) : (valid a).toOption = some a := rfl

@[simp] theorem toOption_invalid (fs : List Fault) : (invalid fs : Checked α).toOption = none := rfl

@[simp] theorem under_valid (step : String) (a : α) : (valid a).under step = valid a := rfl

end Checked

end ServerActions
