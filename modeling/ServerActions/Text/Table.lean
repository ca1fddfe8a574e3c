import ServerActions.Text.Digit
import ServerActions.Text.Split

/-!
# Tables of characters

Properties of characters as tables: runs of code points in rising order, each with a value where the
property has several.

## Main definitions

* `Table`, `Table.ofText` — the runs of a property, and those that a text in hexadecimal lists.
* `Table.get?`, `Table.has` — the value of a code point, and whether it is in one of the runs.
-/

namespace ServerActions.Text

/-- A run of code points with their value. -/
structure Run where
  first : Nat
  last : Nat
  value : Nat
  deriving DecidableEq, Repr, Inhabited

/-- Runs of code points in rising order. -/
structure Table where
  runs : Array Run
  deriving Repr, Inhabited

/-- The words of a text between spaces and ends of lines. -/
def wordsOf (text : String) : List (List Char) :=
  (cut ' ' (text.toList.map fun c => if c = '\n' then ' ' else c)).filter (!·.isEmpty)

/-- The run that a word denotes: its ends with a hyphen between them, or one code point.  A value
may follow behind an equals sign. -/
def Run.ofWord (word : List Char) : Run :=
  let ends := word.takeWhile (· ≠ '=')
  let first := ends.takeWhile (· ≠ '-')
  let last := ends.drop (first.length + 1)
  let number (cs : List Char) : Nat := (hexNumber? cs).getD 0
  ⟨number first, number (if last.isEmpty then first else last),
    number (word.drop (ends.length + 1))⟩

/-- The runs that the words of a text denote. -/
def Table.ofText (text : String) : Table :=
  ⟨((wordsOf text).map Run.ofWord).toArray⟩

/-- The run that a code point is in, of those from one place on and before another. -/
def Table.search (t : Table) (n : Nat) : Nat → Nat → Nat → Option Run
  | 0, _, _ => none
  | bound + 1, low, high =>
    if high ≤ low then none
    else
      let middle := (low + high) / 2
      match t.runs[middle]? with
      | none => none
      | some r =>
        if n < r.first then t.search n bound low middle
        else if r.last < n then t.search n bound (middle + 1) high
        else some r

/-- The run that a code point is in.  Every step halves the runs that are left. -/
def Table.run? (t : Table) (n : Nat) : Option Run :=
  t.search n (t.runs.size + 1) 0 t.runs.size

/-- The value of a code point. -/
def Table.get? (t : Table) (n : Nat) : Option Nat :=
  (t.run? n).map Run.value

/-- Whether a character is in one of the runs. -/
def Table.has (t : Table) (c : Char) : Bool :=
  (t.run? c.toNat).isSome

end ServerActions.Text
