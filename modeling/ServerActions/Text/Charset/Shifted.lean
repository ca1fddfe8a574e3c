import ServerActions.Text.Charset.Wide

/-!
# The character set of shifted units

Text in ASCII in which runs of other characters are written by letters and digits of six bits each,
between a plus sign and the next character of another kind.

## Main definitions

* `utf7` — the code points that octets stand for.
-/

namespace ServerActions.Text.Charset

/-- The value of a letter or a digit of six bits. -/
def sixBits? (c : Char) : Option Nat :=
  if c.isUpper then some (c.toNat - 65)
  else if c.isLower then some (c.toNat - 71)
  else if c.isDigit then some (c.toNat + 4)
  else if c = '+' then some 62
  else if c = '/' then some 63
  else none

/-- What is known inside a run: the bits read but not used yet with their count, and the first half
of a character whose second half is still to come. -/
structure Shift where
  bits : Nat
  count : Nat
  half : Option Nat
  deriving Repr

/-- The start of a run. -/
def Shift.start : Shift := ⟨0, 0, none⟩

/-- The half of a character that stands alone. -/
def Shift.loneHalf (s : Shift) : List Nat :=
  s.half.toList

/-- A unit of two octets was read. -/
def Shift.unit (s : Shift) (n : Nat) : List Nat × Shift :=
  match s.half with
  | some h =>
    if isLow n then ([(ofHalves h n).toNat], { s with half := none })
    else if isHigh n then ([h], { s with half := some n })
    else ([h, n], { s with half := none })
  | none => if isHigh n then ([], { s with half := some n }) else ([n], s)

/-- Six more bits were read. -/
def Shift.read (s : Shift) (six : Nat) : List Nat × Shift :=
  let bits := s.bits * 64 + six
  let count := s.count + 6
  if 16 ≤ count then
    let rest := count - 16
    (⟨bits % (1 <<< rest), rest, s.half⟩ : Shift).unit (bits >>> rest)
  else ([], ⟨bits, count, s.half⟩)

/-- Whether the bits that are left do not just fill up a letter. -/
def Shift.isBroken (s : Shift) : Bool :=
  6 ≤ s.count || s.bits ≠ 0

/-- A character outside a run; a plus sign begins one unless it is followed by a hyphen, and then
stands for itself. -/
def plainShifted (c : Char) : Nat :=
  if c.toNat < 128 then c.toNat else replacement.toNat

/-- The code points that characters of one octet each stand for, inside a run or outside. -/
def unshifted : Option Shift → List Char → List Nat
  | none, [] => []
  | some s, [] => if s.half.isSome || s.isBroken then [replacement.toNat] else []
  | none, ['+'] => []
  | none, '+' :: c :: cs =>
    if c = '-' then '+'.toNat :: unshifted none cs
    else match sixBits? c with
      | some six =>
        let (out, s) := Shift.start.read six
        out ++ unshifted (some s) cs
      | none => replacement.toNat :: unshifted none cs
  | none, c :: cs => plainShifted c :: unshifted none cs
  | some s, c :: cs =>
    match sixBits? c with
    | some six =>
      let (out, s) := s.read six
      out ++ unshifted (some s) cs
    | none =>
      if s.isBroken then replacement.toNat :: unshifted none cs
      else if c = '-' then s.loneHalf ++ unshifted none cs
      else if c.toNat < 128 then s.loneHalf ++ c.toNat :: unshifted none cs
      else replacement.toNat :: unshifted none cs

/-- The code points that octets stand for. -/
def utf7 (bs : List UInt8) : List Nat :=
  unshifted none (bs.map fun b => Char.ofNat b.toNat)

end ServerActions.Text.Charset
