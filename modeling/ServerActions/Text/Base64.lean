/-!
# Base 64

Octets written with sixty-four letters, four of them for three octets, and read back leniently: what
is no letter is passed over.

## Main definitions

* `sextet? c` — the six bits that a letter stands for.
* `decode? cs` — the octets that a text denotes.
-/

namespace ServerActions.Text.Base64

/-- The six bits that a letter stands for. -/
def sextet? (c : Char) : Option Nat :=
  if 'A' ≤ c && c ≤ 'Z' then some (c.toNat - 65)
  else if 'a' ≤ c && c ≤ 'z' then some (c.toNat - 71)
  else if '0' ≤ c && c ≤ '9' then some (c.toNat + 4)
  else if c = '+' then some 62
  else if c = '/' then some 63
  else none

/-- The bits of the letters of a text up to where it is padded to a multiple of four.  `count`
letters were read before, and `padding` equals signs since the last of them. -/
def sextets? (count padding : Nat) : List Char → Option (List Nat)
  | [] => if count % 4 = 0 then some [] else none
  | '=' :: cs =>
    if 2 ≤ count % 4 then
      if 4 ≤ count % 4 + (padding + 1) then some [] else sextets? count (padding + 1) cs
    else sextets? count padding cs
  | c :: cs =>
    match sextet? c with
    | some n => (sextets? (count + 1) 0 cs).map (n :: ·)
    | none => sextets? count padding cs

/-- The octets of groups of six bits; bits that are left over are dropped. -/
def joined : List Nat → List UInt8
  | a :: b :: c :: d :: rest =>
    let n := ((a * 64 + b) * 64 + c) * 64 + d
    .ofNat (n / 65536) :: .ofNat (n / 256 % 256) :: .ofNat (n % 256) :: joined rest
  | [a, b, c] =>
    let n := (a * 64 + b) * 64 + c
    [.ofNat (n / 1024), .ofNat (n / 4 % 256)]
  | [a, b] => [.ofNat ((a * 64 + b) / 16)]
  | _ => []

/-- The octets that a text denotes, unless letters are missing at its end. -/
def decode? (cs : List Char) : Option (List UInt8) :=
  (sextets? 0 0 cs).map joined

end ServerActions.Text.Base64
