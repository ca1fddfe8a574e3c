import ServerActions.Text.Quoted

/-!
# UTF-8

Octets read as characters, with the place and the kind of the first mistake when they are none.

## Main definitions

* `Mistake`, `Utf8.Fault` — what can be wrong with octets, and where.
* `Pending` — a character of which octets are still to come.
* `decode`, `decodeLossy` — the characters of octets, if all of them are some, and in any case.
-/

namespace ServerActions.Text.Utf8

/-- What can be wrong with octets. -/
inductive Mistake
  | badStart
  | badContinuation
  | tooShort
  deriving DecidableEq, Repr

/-- The wording of a mistake. -/
def Mistake.message : Mistake → String
  | .badStart => "invalid start byte"
  | .badContinuation => "invalid continuation byte"
  | .tooShort => "unexpected end of data"

/-- A mistake, the octet with which it starts, the position of that octet and the count of
octets. -/
structure Fault where
  mistake : Mistake
  octet : UInt8
  position : Nat
  count : Nat
  deriving DecidableEq, Repr

/-- The wording of a fault. -/
def Fault.message (f : Fault) : String :=
  let place :=
    if f.count ≤ 1 then
      "byte 0x" ++ String.ofList (hex 2 f.octet.toNat) ++ " in position " ++ toString f.position
    else
      "bytes in position " ++ toString f.position ++ "-" ++ toString (f.position + f.count - 1)
  "'utf-8' codec can't decode " ++ place ++ ": " ++ f.mistake.message

/-- A character whose first octets were read: the first of them with its position, the number made
so far, the range of the next octet and how many come after that. -/
structure Pending where
  octet : UInt8
  position : Nat
  value : Nat
  low : Nat
  high : Nat
  more : Nat
  deriving DecidableEq, Repr

/-- What an octet beyond ASCII begins at a position, if it begins a character. -/
def start? (position : Nat) (b : UInt8) : Option Pending :=
  let n := b.toNat
  if 0xC2 ≤ n ∧ n ≤ 0xDF then some ⟨b, position, n - 0xC0, 0x80, 0xBF, 0⟩
  else if n = 0xE0 then some ⟨b, position, 0, 0xA0, 0xBF, 1⟩
  else if n = 0xED then some ⟨b, position, n - 0xE0, 0x80, 0x9F, 1⟩
  else if 0xE1 ≤ n ∧ n ≤ 0xEF then some ⟨b, position, n - 0xE0, 0x80, 0xBF, 1⟩
  else if n = 0xF0 then some ⟨b, position, 0, 0x90, 0xBF, 2⟩
  else if n = 0xF4 then some ⟨b, position, 4, 0x80, 0x8F, 2⟩
  else if 0xF1 ≤ n ∧ n ≤ 0xF3 then some ⟨b, position, n - 0xF0, 0x80, 0xBF, 2⟩
  else none

/-- The fault of a pending character that is broken off before a position. -/
def Pending.fault (p : Pending) (mistake : Mistake) (position : Nat) : Fault :=
  ⟨mistake, p.octet, p.position, position - p.position⟩

/-- The pending character with the bits of one more octet. -/
def Pending.extended (p : Pending) (b : UInt8) : Nat :=
  p.value * 0x40 + (b.toNat - 0x80)

/-- The characters of the octets from a position on, after those of a pending character. -/
def decodeFrom (position : Nat) (pending : Option Pending) :
    List UInt8 → Except Fault (List Char)
  | [] =>
    match pending with
    | none => .ok []
    | some p => .error (p.fault .tooShort position)
  | b :: bs =>
    match pending with
    | none =>
      if b.toNat < 0x80 then (decodeFrom (position + 1) none bs).map (Char.ofNat b.toNat :: ·)
      else match start? position b with
        | some p => decodeFrom (position + 1) (some p) bs
        | none => .error ⟨.badStart, b, position, 1⟩
    | some p =>
      if p.low ≤ b.toNat ∧ b.toNat ≤ p.high then
        match p.more with
        | 0 => (decodeFrom (position + 1) none bs).map (Char.ofNat (p.extended b) :: ·)
        | more + 1 =>
          decodeFrom (position + 1)
            (some { p with value := p.extended b, low := 0x80, high := 0xBF, more := more }) bs
      else .error (p.fault .badContinuation position)

/-- The characters of octets. -/
def decode (bs : List UInt8) : Except Fault (List Char) :=
  decodeFrom 0 none bs

/-- The characters of octets, with a mark in the place of those that are none.  The first argument
bounds the count of the marks. -/
def decodeLossy : Nat → List UInt8 → List Char
  | 0, _ => []
  | bound + 1, bs =>
    match decode bs with
    | .ok cs => cs
    | .error f =>
      let start := (decode (bs.take f.position)).toOption.getD []
      start ++ '\uFFFD' :: decodeLossy bound (bs.drop (f.position + f.count))

end ServerActions.Text.Utf8
