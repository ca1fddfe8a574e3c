import ServerActions.Number.Binary64

/-!
# Shortest decimal text

The text of a double-precision number: the fewest decimal digits that read back as the number, laid
out with a point or, for very large and very small numbers, with a power of ten.

## Main definitions

* `Decimal` — digits and the place of the decimal point.
* `shortest m e` — the shortest decimal in the interval of values that round to `m · 2 ^ e`; of
  those of one length, the nearest.
* `Binary64.text` — the text of a number.
-/

namespace ServerActions.Number

/-- The positive value `digits · 10 ^ exponent`. -/
structure Decimal where
  digits : Nat
  exponent : Int
  deriving DecidableEq, Repr

/-- The fraction `num / den` divided by `10 ^ k`, as a fraction. -/
def tenths (num den : Nat) (k : Int) : Nat × Nat :=
  if 0 ≤ k then (num, den * tenTo k.toNat) else (num * tenTo (-k).toNat, den)

/-- The value `m · 2 ^ e` as a fraction. -/
def fraction (m : Nat) (e : Int) : Nat × Nat :=
  if 0 ≤ e then (m * twoTo e.toNat, 1) else (m, twoTo (-e).toNat)

/-- The number of digits before the decimal point of `num / den`, negative when zeros follow the
point; found from an estimate that is at most one too large or too small. -/
def pointPlace (num den : Nat) (guess : Int) : Int :=
  let below (k : Int) : Bool := let (n, d) := tenths num den k; decide (n < d)
  if below (guess - 1) then guess - 1
  else if below guess then guess
  else if below (guess + 1) then guess + 1
  else guess + 2

/-- Whether the decimal lies in the interval of values that round to `m · 2 ^ e`, whose ends
belong to it when the significand is even. -/
def Decimal.roundsTo (x : Decimal) (m : Nat) (e : Int) : Bool :=
  let (low, high) := Binary64.halfway m e
  let (ln, ld) := fraction low (e - 2)
  let (hn, hd) := fraction high (e - 2)
  let (n, d) := if 0 ≤ x.exponent then (x.digits * tenTo x.exponent.toNat, 1)
    else (x.digits, tenTo (-x.exponent).toNat)
  if m % 2 = 0 then decide (ln * d ≤ n * ld) && decide (n * hd ≤ hn * d)
  else decide (ln * d < n * ld) && decide (n * hd < hn * d)

/-- The decimal nearest to `m · 2 ^ e` among those with `10 ^ k` as their unit that round to it. -/
def nearestAt (m : Nat) (e : Int) (k : Int) : Option Decimal :=
  let (num, den) := fraction m e
  let (n, d) := tenths num den k
  let lower : Decimal := ⟨n / d, k⟩
  let upper : Decimal := ⟨n / d + 1, k⟩
  let r := n % d
  let (first, second) := if 2 * r < d ∨ (2 * r = d ∧ n / d % 2 = 0) then (lower, upper)
    else (upper, lower)
  if first.digits ≠ 0 ∧ first.roundsTo m e then some first
  else if second.digits ≠ 0 ∧ second.roundsTo m e then some second
  else none

/-- The first decimal found when the unit `10 ^ k` is made smaller, at most `count` times. -/
def searchFrom (m : Nat) (e : Int) : Nat → Int → Decimal
  | 0, k => let (num, den) := fraction m e; let (n, d) := tenths num den k; ⟨n / d, k⟩
  | count + 1, k => (nearestAt m e k).getD (searchFrom m e count (k - 1))

/-- The shortest decimal that reads back as the positive number `m · 2 ^ e`. -/
def shortest (m : Nat) (e : Int) : Decimal :=
  let (num, den) := fraction m e
  let bits : Int := (Nat.log2 m : Int) + e
  let point := pointPlace num den (bits * 30103 / 100000 + 1)
  searchFrom m e 17 (point - 1)

/-- How a finite number is laid out: the places of the decimal point between which it is written
without a power of ten, and the least number of digits of that power. -/
structure Layout where
  leastPoint : Int
  greatestPoint : Int
  exponentDigits : Nat

/-- Numbers are written with a point from `0.0001` to below `10 ^ 16`; the power of ten has two
digits at least. -/
def layout : Layout := ⟨-3, 16, 2⟩

/-- A number with zeros in front until it has `width` digits. -/
def padded (width n : Nat) : List Char :=
  let ds := Nat.toDigits 10 n
  List.replicate (width - ds.length) '0' ++ ds

/-- The digits of `n` without the zeros at their end, and how many zeros those were. -/
def significant (n : Nat) : List Char × Nat :=
  let ds := Nat.toDigits 10 n
  let kept := (ds.reverse.dropWhile (· == '0')).reverse
  (kept, ds.length - kept.length)

/-- The text of a positive decimal in a layout. -/
def Decimal.text (x : Decimal) (l : Layout) : List Char :=
  let (ds, zeros) := significant x.digits
  let point : Int := (ds.length : Int) + (zeros : Int) + x.exponent
  if l.leastPoint ≤ point ∧ point ≤ l.greatestPoint then
    if point ≤ 0 then ['0', '.'] ++ List.replicate (-point).toNat '0' ++ ds
    else
      let before := ds.take point.toNat ++ List.replicate (point.toNat - ds.length) '0'
      let after := ds.drop point.toNat
      before ++ ['.'] ++ (if after.isEmpty then ['0'] else after)
  else
    let power := point - 1
    let mantissa := match ds with
      | d :: rest@(_ :: _) => d :: '.' :: rest
      | _ => ds
    mantissa ++ ['e', if power < 0 then '-' else '+'] ++ padded l.exponentDigits power.natAbs

/-- The text of a number. -/
def Binary64.text : Binary64 → String
  | .nan => "nan"
  | .infinity negative => if negative then "-inf" else "inf"
  | .finite negative m e =>
    let magnitude := if m = 0 then ['0', '.', '0'] else (shortest m e).text layout
    String.ofList (if negative then '-' :: magnitude else magnitude)

end ServerActions.Number
