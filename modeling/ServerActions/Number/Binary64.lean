/-!
# Double-precision numbers

The binary64 numbers, kept as exact values: a sign, a significand and a power of two.  Reading a
decimal numeral rounds its value to the nearest such number.

## Main definitions

* `Binary64` — not a number, an infinity, or `± significand · 2 ^ exponent`.
* `Binary64.ofDecimal negative digits exponent` — the number nearest to `± digits · 10 ^ exponent`;
  of two that are equally near, the one with the even significand.
* `Binary64.add`, `Binary64.mul` — sums and products, rounded.
* `Binary64.toInt?` — the integer that a number is, if it is one.
* `Binary64.halfway` — the two ends of the interval of values that round to a number.
-/

namespace ServerActions.Number

/-- A double-precision number.  A finite one is `± significand · 2 ^ exponent`, with the significand
below `2 ^ 53` and the exponent at least `-1074`; it is written with the largest significand. -/
inductive Binary64
  | nan
  | infinity (negative : Bool)
  | finite (negative : Bool) (significand : Nat) (exponent : Int)
  deriving DecidableEq, Repr, Inhabited

/-- The power `2 ^ k`. -/
def twoTo (k : Nat) : Nat := Nat.pow 2 k

/-- The power `10 ^ k`. -/
def tenTo (k : Nat) : Nat := Nat.pow 10 k

namespace Binary64

/-- The smallest exponent of two. -/
def minExponent : Int := -1074

/-- The largest exponent of two. -/
def maxExponent : Int := 971

/-- The quotient rounded to the nearest integer, a tie to the even one. -/
def roundDiv (num den : Nat) : Nat :=
  let q := num / den
  let r := num % den
  if 2 * r < den then q
  else if den < 2 * r then q + 1
  else q + q % 2

/-- The fraction `num / den` in units of `2 ^ e`, as a fraction. -/
def scaled (num den : Nat) (e : Int) : Nat × Nat :=
  if 0 ≤ e then (num, den * twoTo e.toNat) else (num * twoTo (-e).toNat, den)

/-- The exponent at which the fraction `num / den` has a significand of 53 bits, or the smallest
exponent if that is larger. -/
def exponentOf (num den : Nat) : Int :=
  let guess : Int := (Nat.log2 num : Int) - (Nat.log2 den : Int) - 52
  let (n, d) := scaled num den guess
  let e := if n / d < twoTo 52 then guess - 1 else guess
  max e minExponent

/-- The number nearest to the positive fraction `num / den`. -/
def ofFraction (negative : Bool) (num den : Nat) : Binary64 :=
  let e := exponentOf num den
  let (n, d) := scaled num den e
  let m := roundDiv n d
  let (m, e) := if m = twoTo 53 then (twoTo 52, e + 1) else (m, e)
  if maxExponent < e then .infinity negative else .finite negative m e

/-- The zero of a sign. -/
def zero (negative : Bool) : Binary64 :=
  .finite negative 0 minExponent

/-- The decimal digits of a number, counted. -/
def digitCount (n : Nat) : Nat :=
  (Nat.toDigits 10 n).length

/-- The number nearest to `± digits · 10 ^ exponent`.  Values beyond `10 ^ 400` and below
`10 ^ (-400)` are an infinity and a zero whatever their digits are. -/
def ofDecimal (negative : Bool) (digits : Nat) (exponent : Int) : Binary64 :=
  if digits = 0 then zero negative
  else
    let size := (digitCount digits : Int) + exponent
    if 400 < size then .infinity negative
    else if size < -400 then zero negative
    else if 0 ≤ exponent then ofFraction negative (digits * tenTo exponent.toNat) 1
    else ofFraction negative digits (tenTo (-exponent).toNat)

/-- The number nearest to `± n · 2 ^ e`. -/
def ofScaled (negative : Bool) (n : Nat) (e : Int) : Binary64 :=
  if n = 0 then zero negative
  else if 0 ≤ e then ofFraction negative (n * twoTo e.toNat) 1
  else ofFraction negative n (twoTo (-e).toNat)

/-- A significand with its sign. -/
def signed (negative : Bool) (n : Nat) : Int :=
  if negative then -n else n

/-- The sum of two numbers.  A sum of zero has no sign unless both have one. -/
def add : Binary64 → Binary64 → Binary64
  | .nan, _ => .nan
  | _, .nan => .nan
  | .infinity a, .infinity b => if a = b then .infinity a else .nan
  | .infinity a, _ => .infinity a
  | _, .infinity b => .infinity b
  | .finite a m d, .finite b n e =>
    let least := min d e
    let sum := signed a m * twoTo (d - least).toNat + signed b n * twoTo (e - least).toNat
    if sum = 0 then zero (a && b) else ofScaled (sum < 0) sum.natAbs least

/-- The product of two numbers. -/
def mul : Binary64 → Binary64 → Binary64
  | .nan, _ => .nan
  | _, .nan => .nan
  | .infinity a, .infinity b => .infinity (a != b)
  | .infinity a, .finite b n _ => if n = 0 then .nan else .infinity (a != b)
  | .finite a m _, .infinity b => if m = 0 then .nan else .infinity (a != b)
  | .finite a m d, .finite b n e => ofScaled (a != b) (m * n) (d + e)

/-- The number of the other sign. -/
def neg : Binary64 → Binary64
  | .nan => .nan
  | .infinity a => .infinity (!a)
  | .finite a m e => .finite (!a) m e

/-- The number nearest to a natural number. -/
def ofNat (n : Nat) : Binary64 :=
  ofScaled false n 0

/-- The integer that a number is, if it is one. -/
def toInt? : Binary64 → Option Int
  | .finite negative m e =>
    let magnitude : Option Nat :=
      if 0 ≤ e then some (m * twoTo e.toNat)
      else if m % twoTo (-e).toNat = 0 then some (m / twoTo (-e).toNat)
      else none
    magnitude.map fun n => if negative then -(n : Int) else n
  | _ => none

/-- The two ends of the interval of magnitudes that round to `m · 2 ^ e`, in units of `2 ^ (e - 2)`.
Below a power of two the neighbour is nearer. -/
def halfway (m : Nat) (e : Int) : Nat × Nat :=
  let low := if m = twoTo 52 ∧ minExponent < e then 4 * m - 1 else 4 * m - 2
  (low, 4 * m + 2)

@[simp] theorem toInt?_nan : toInt? .nan = none := rfl

@[simp] theorem toInt?_infinity (negative : Bool) : toInt? (.infinity negative) = none := rfl

end Binary64

end ServerActions.Number
