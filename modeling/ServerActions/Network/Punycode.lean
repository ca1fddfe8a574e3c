/-!
# Host names in ASCII

A label of a host name as ASCII text: its ASCII characters, and then the places and the values of
the others as numbers of variable length.

## Main definitions

* `threshold`, `adapt` — how the digits of a number are bounded, and how the bound follows the
  numbers before.
* `digits` — a number of variable length.
* `punycode`, `unpunycode?` — a label as ASCII text, and the label that a text stands for.
-/

namespace ServerActions.Network

/-- The letter or digit of a value below thirty-six. -/
def digitChar (d : Nat) : Char :=
  Char.ofNat (if d < 26 then 97 + d else 22 + d)

/-- The value below which the digit at a place ends its number. -/
def threshold (place bias : Nat) : Nat :=
  max 1 (min 26 (place - bias))

/-- A difference brought into the range of one digit, with the places that it takes. -/
def scaleDown : Nat → Nat → Nat × Nat
  | 0, delta => (delta, 0)
  | bound + 1, delta =>
    if delta ≤ 455 then (delta, 0)
    else
      let (d, places) := scaleDown bound (delta / 35)
      (d, places + 36)

/-- The bias after a difference, of which `count` characters are behind it. -/
def adapt (delta count : Nat) (first : Bool) : Nat :=
  let delta := if first then delta / 700 else delta / 2
  let delta := delta + delta / count
  let (d, places) := scaleDown delta delta
  places + 36 * d / (d + 38)

/-- The digits of a number. -/
def digits (bias : Nat) : Nat → Nat → Nat → List Char
  | 0, _, _ => []
  | bound + 1, place, n =>
    let t := threshold place bias
    if n < t then [digitChar n]
    else digitChar (t + (n - t) % (36 - t)) :: digits bias bound (place + 36) ((n - t) / (36 - t))

/-- What is known while the characters of a label are written. -/
structure Writing where
  output : List Char
  delta : Nat
  bias : Nat
  count : Nat

/-- One character of the label is passed while those of the value `n` are written. -/
def Writing.pass (basic n : Nat) (w : Writing) (c : Char) : Writing :=
  if c.toNat < n then { w with delta := w.delta + 1 }
  else if c.toNat = n then
    ⟨w.output ++ digits w.bias (w.delta + 1) 36 w.delta, 0,
      adapt w.delta (w.count + 1) (w.count = basic), w.count + 1⟩
  else w

/-- The characters of the values in a rising list are written; all below `n` are written already. -/
def Writing.values (label : List Char) (basic : Nat) : Nat → Writing → List Nat → Writing
  | _, w, [] => w
  | n, w, value :: rest =>
    let w := { w with delta := w.delta + (value - n) * (w.count + 1) }
    let w := label.foldl (Writing.pass basic value) w
    Writing.values label basic (value + 1) { w with delta := w.delta + 1 } rest

/-- The label as ASCII text. -/
def punycode (label : List Char) : List Char :=
  let basic := label.filter fun c => c.toNat < 128
  let others := (label.filter fun c => 128 ≤ c.toNat).map Char.toNat
  let rising := (others.mergeSort fun a b => a ≤ b).eraseDups
  let start := if basic.isEmpty then [] else basic ++ ['-']
  (Writing.values label basic.length 128 ⟨start, 0, 72, basic.length⟩ rising).output

/-! ### Reading -/

/-- The value of a letter or a digit. -/
def digitValue? (c : Char) : Option Nat :=
  if c.isAlpha then some (c.toLower.toNat - 97)
  else if c.isDigit then some (c.toNat - 22)
  else none

/-- The number of variable length at the head of a text, of which `n` is known and whose next digit
counts `weight` times, and the text after it. -/
def number? (bias place weight n : Nat) : List Char → Option (Nat × List Char)
  | [] => none
  | c :: cs => do
    let d ← digitValue? c
    let t := threshold place bias
    let n := n + d * weight
    if d < t then return (n, cs) else number? bias (place + 36) (weight * (36 - t)) n cs

/-- A label with the characters put in whose places and values the rest of a text gives.  The last
one put in is at `at'` minus one, and has the value `value`. -/
def withCharacters (bias value at' : Nat) (first : Bool) :
    Nat → List Nat → List Char → Option (List Nat)
  | 0, _, _ => none
  | _, label, [] => some label
  | bound + 1, label, cs => do
    let (delta, rest) ← number? bias 36 1 0 cs
    let places := label.length + 1
    let value := value + (at' + delta) / places
    if 0x10FFFF < value then none
    let at' := (at' + delta) % places
    let label := label.take at' ++ value :: label.drop at'
    withCharacters (adapt delta label.length first) value (at' + 1) false bound label rest

/-- The label that ASCII text stands for, if it stands for any. -/
def unpunycode? (text : List Char) : Option (List Char) := do
  let digits := (text.reverse.takeWhile (· ≠ '-')).reverse
  let basic := text.take (text.length - digits.length - 1)
  let values ← withCharacters 72 128 0 true (digits.length + 1) (basic.map Char.toNat) digits
  if values.all fun n => n.isValidChar then return values.map Char.ofNat else none

end ServerActions.Network
