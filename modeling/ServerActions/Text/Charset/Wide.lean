import ServerActions.Text.Surrogate

/-!
# Character sets of wide units

Texts in which every character takes one or two units of two octets, or one of four.

## Main definitions

* `ByteOrder` — which octet of a unit comes first.
* `utf16`, `utf32` — the text that octets stand for when the order is known.
* `markedOrder?` — the order that the mark at the head of a text tells.
-/

namespace ServerActions.Text.Charset

/-- Which octet of a unit comes first: the one with the low digits, or the one with the high
ones. -/
inductive ByteOrder
  | little
  | big
  deriving DecidableEq, Repr

/-- What is shown for octets that stand for no character. -/
def replacement : Char := '\uFFFD'

/-- The number that the octets of a unit make. -/
def ByteOrder.unit (o : ByteOrder) (bs : List UInt8) : Nat :=
  let inOrder := match o with
    | .little => bs.reverse
    | .big => bs
  inOrder.foldl (fun n b => n * 256 + b.toNat) 0

/-- The character of two halves. -/
def ofHalves (first second : Nat) : Char :=
  Char.ofNat (0x10000 + (first - 0xD800) * 0x400 + (second - 0xDC00))

/-- The text that octets stand for in units of two octets.  A half of a character that is alone is
replaced, and so is what is left over at the end. -/
def utf16 (o : ByteOrder) : List UInt8 → List Char
  | a :: b :: c :: d :: rest =>
    let n := o.unit [a, b]
    if isHigh n then
      let m := o.unit [c, d]
      if isLow m then ofHalves n m :: utf16 o rest
      else replacement :: utf16 o (c :: d :: rest)
    else if isLow n then replacement :: utf16 o (c :: d :: rest)
    else Char.ofNat n :: utf16 o (c :: d :: rest)
  | a :: b :: rest =>
    let n := o.unit [a, b]
    if isHigh n then [replacement]
    else (if isLow n then replacement else Char.ofNat n)
      :: (if rest.isEmpty then [] else [replacement])
  | [] => []
  | [_] => [replacement]

/-- The text that octets stand for in units of four octets. -/
def utf32 (o : ByteOrder) : List UInt8 → List Char
  | a :: b :: c :: d :: rest =>
    let n := o.unit [a, b, c, d]
    (if n.isValidChar then Char.ofNat n else replacement) :: utf32 o rest
  | [] => []
  | _ => [replacement]

/-- The order that the mark at the head of a text tells, in units of so many octets. -/
def markedOrder? (size : Nat) (bs : List UInt8) : Option ByteOrder :=
  [ByteOrder.little, .big].find? fun o => bs.length ≥ size && o.unit (bs.take size) = 0xFEFF

end ServerActions.Text.Charset
