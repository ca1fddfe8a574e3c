import ServerActions.Failure.Basic
import ServerActions.Text.Digit
import ServerActions.Text.Split
import ServerActions.Value.Inside

/-!
# Pointers

A pointer names a value inside a description by the steps that lead to it from the root.

## Main definitions

* `escape`, `unescape` — a step as it is written in a pointer, and read back.
* `stepInto` — the value one step below another.
* `resolve` — the value that a pointer names.

## Main statements

* `unescape_escape` — a step comes back from its written form.
-/

namespace ServerActions.Reference

/-! ### Steps -/

/-- A step as it is written: a tilde as `~0` and a slash as `~1`. -/
def escape : List Char → List Char
  | [] => []
  | '~' :: cs => '~' :: '0' :: escape cs
  | '/' :: cs => '~' :: '1' :: escape cs
  | c :: cs => c :: escape cs

/-- The step that is written so. -/
def unescape : List Char → List Char
  | [] => []
  | '~' :: '1' :: cs => '/' :: unescape cs
  | '~' :: '0' :: cs => '~' :: unescape cs
  | c :: cs => c :: unescape cs

/-- A character other than a tilde is read as it stands. -/
private theorem unescape_cons {c : Char} (h : c ≠ '~') (cs : List Char) :
    unescape (c :: cs) = c :: unescape cs := by
  rw [unescape.eq_def]
  split <;> simp_all

/-- A step comes back from its written form. -/
theorem unescape_escape (cs : List Char) : unescape (escape cs) = cs := by
  fun_induction escape cs with
  | case1 => rfl
  | case2 cs ih => simp [unescape, ih]
  | case3 cs ih => simp [unescape, ih]
  | case4 c cs h _ ih => rw [unescape_cons (fun e => h e), ih]

/-- The steps of a pointer after its start. -/
def steps (cs : List Char) : List String :=
  (Text.cut '/' cs).map fun p => String.ofList (unescape p)

/-! ### Walking -/

/-- The number that a step is, if it is made of digits. -/
def indexOf? (step : String) : Except Text.NumeralFault (Option Nat) :=
  if Text.isDigits step.toList then (Text.numeral step.toList).map some else .ok none

/-- The value one step below another: under a name, or else under a number, of a mapping, or at a
place of a list. -/
def stepInto (step : String) (v : Value) : Except Text.NumeralFault (Option Value) :=
  match v.fields?, v.listItems? with
  | some fs, _ =>
    match fs.get? step with
    | some inner => .ok (some inner)
    | none => (indexOf? step).map (Option.bind · fun n => fs.find? (.int (n : Nat)))
  | none, some vs => (indexOf? step).map (Option.bind · fun n => vs[n]?)
  | none, none => .ok none

/-- The value that steps lead to, after those walked already. -/
def walk (ref walked : String) (v : Value) : List String → Except Failure Value
  | [] => .ok v
  | step :: rest =>
    let walked := walked ++ "/" ++ step
    match stepInto step v with
    | .error f => .error (.bare (.numeral f))
    | .ok none => .error (.reference ref (some (.noSuchPlace walked)))
    | .ok (some inner) => walk ref walked inner rest

/-- Whether a text begins with another. -/
def startsWith (start text : String) : Bool :=
  start.toList.isPrefixOf text.toList

/-- The value that a pointer names inside a mapping. -/
def resolve (root : Fields) (ref : String) : Except Failure Value :=
  if startsWith "http://" ref || startsWith "https://" ref then
    .error (.reference ref (some .external))
  else if !startsWith "#/" ref then .error (.reference ref (some .notLocal))
  else walk ref "#" (.map root) (steps (ref.toList.drop 2))

end ServerActions.Reference
