import ServerActions.Text.Digit
import ServerActions.Text.Quoted
import ServerActions.Value.Moment

/-!
# Faults of a YAML text

## Main definitions

* `Fault` — why a YAML text denotes no value.
* `Fault.message` — how it is worded.
-/

namespace ServerActions.Yaml

/-- Why a text denotes no value. -/
inductive Fault
  /-- The text has no structure, or one that is not supported. -/
  | malformed
  /-- An escape denotes no character. -/
  | noCharacter (code : Nat)
  /-- A scalar is no integer in its base though its tag says so. -/
  | notInteger (base : Nat) (text : String)
  /-- An integer has too many digits. -/
  | tooLong (fault : Text.NumeralFault)
  /-- A scalar is no number though its tag says so. -/
  | notNumber (text : String)
  /-- A scalar is no truth value though its tag says so. -/
  | notTruth (word : String)
  /-- A scalar without any digit is tagged as a number. -/
  | noDigits
  /-- A date or a time does not exist. -/
  | moment (fault : MomentFault)
  /-- A scalar does not look like a date though its tag says so. -/
  | notMoment
  /-- A mapping is tagged as a date. -/
  | momentInMapping
  /-- Lists and mappings lie too deep inside one another. -/
  | tooDeep
  deriving DecidableEq, Repr

/-- The wording of a fault. -/
def Fault.message : Fault → String
  | .malformed => "the text is no valid YAML"
  | .noCharacter code =>
    if code < 0x80000000 then "chr() arg not in range(0x110000)"
    else "Python int too large to convert to C int"
  | .notInteger base text =>
    "invalid literal for int() with base " ++ toString base ++ ": "
      ++ String.ofList ((Text.quoted text.toList).take 200)
  | .tooLong fault => fault.message
  | .notNumber text =>
    "could not convert string to float: " ++ String.ofList (Text.quoted text.toList)
  | .notTruth word => String.ofList (Text.quoted word.toList)
  | .noDigits => "string index out of range"
  | .moment fault => fault.message
  | .notMoment => "'NoneType' object has no attribute 'groupdict'"
  | .momentInMapping => "expected string or bytes-like object, got 'list'"
  | .tooDeep => "maximum recursion depth exceeded"

end ServerActions.Yaml
