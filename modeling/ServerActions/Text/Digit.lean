/-!
# Digits

The decimal digits of all scripts, the characters that are digits without being decimal
(superscripts, circled digits and the like), and numerals written with them.

## Main definitions

* `decimal? c` — the value of a decimal digit.
* `isDigit c` — `c` is a digit of either kind.
* `numeral cs` — the number that a text of digits denotes, with the two ways in which it can fail:
  a digit that is not decimal, and more digits than a numeral may have.
-/

namespace ServerActions.Text

/-- The characters that are the digit zero of some script; the nine other decimal digits of the
script follow each of them. -/
def decimalZeros : List Nat :=
  [0x30, 0x660, 0x6F0, 0x7C0, 0x966, 0x9E6, 0xA66, 0xAE6, 0xB66, 0xBE6, 0xC66, 0xCE6, 0xD66,
   0xDE6, 0xE50, 0xED0, 0xF20, 0x1040, 0x1090, 0x17E0, 0x1810, 0x1946, 0x19D0, 0x1A80, 0x1A90,
   0x1B50, 0x1BB0, 0x1C40, 0x1C50, 0xA620, 0xA8D0, 0xA900, 0xA9D0, 0xA9F0, 0xAA50, 0xABF0, 0xFF10,
   0x104A0, 0x10D30, 0x11066, 0x110F0, 0x11136, 0x111D0, 0x112F0, 0x11450, 0x114D0, 0x11650,
   0x116C0, 0x11730, 0x118E0, 0x11950, 0x11C50, 0x11D50, 0x11DA0, 0x16A60, 0x16AC0, 0x16B50,
   0x1D7CE, 0x1D7D8, 0x1D7E2, 0x1D7EC, 0x1D7F6, 0x1E140, 0x1E2F0, 0x1E950, 0x1FBF0]

/-- The ranges of characters that are digits without being decimal digits. -/
def otherDigits : List (Nat × Nat) :=
  [(0xB2, 0xB3), (0xB9, 0xB9), (0x1369, 0x1371), (0x19DA, 0x19DA), (0x2070, 0x2070),
   (0x2074, 0x2079), (0x2080, 0x2089), (0x2460, 0x2468), (0x2474, 0x247C), (0x2488, 0x2490),
   (0x24EA, 0x24EA), (0x24F5, 0x24FD), (0x24FF, 0x24FF), (0x2776, 0x277E), (0x2780, 0x2788),
   (0x278A, 0x2792), (0x10A40, 0x10A43), (0x10E60, 0x10E68), (0x11052, 0x1105A),
   (0x1F100, 0x1F10A)]

/-- The value of a decimal digit of any script. -/
def decimal? (c : Char) : Option Nat :=
  (decimalZeros.find? fun z => z ≤ c.toNat && c.toNat ≤ z + 9).map (c.toNat - ·)

/-- A digit, decimal or not. -/
def isDigit (c : Char) : Bool :=
  (decimal? c).isSome || otherDigits.any fun r => r.1 ≤ c.toNat && c.toNat ≤ r.2

/-- A text of one or more digits. -/
def isDigits (cs : List Char) : Bool :=
  !cs.isEmpty && cs.all isDigit

/-- The value of a hexadecimal digit. -/
def hexValue? (c : Char) : Option Nat :=
  let n := c.toNat
  if 48 ≤ n ∧ n ≤ 57 then some (n - 48)
  else if 97 ≤ n ∧ n ≤ 102 then some (n - 87)
  else if 65 ≤ n ∧ n ≤ 70 then some (n - 55)
  else none

/-- The number that hexadecimal digits denote. -/
def hexNumber? (cs : List Char) : Option Nat :=
  cs.foldl (fun n c => n.bind fun n => (hexValue? c).map (n * 16 + ·)) (some 0)

/-- Why a text of digits denotes no number. -/
inductive NumeralFault
  /-- A digit among them is not decimal. -/
  | notDecimal (text : List Char)
  /-- More digits than a numeral may have. -/
  | tooLong (digits : Nat)
  deriving DecidableEq, Repr

/-- A numeral has at most this many digits. -/
def maxNumeralDigits : Nat := 4300

/-- The number that decimal digits denote, read from the left after `n`. -/
def decimalValue (n : Nat) : List Char → Option Nat
  | [] => some n
  | c :: cs => (decimal? c).bind fun d => decimalValue (n * 10 + d) cs

/-- The number that a text of digits denotes in base ten. The length is judged first, on the decimal
digits before any other. -/
def numeral (cs : List Char) : Except NumeralFault Nat :=
  let digits := (cs.takeWhile fun c => (decimal? c).isSome).length
  if maxNumeralDigits < digits then .error (.tooLong digits)
  else match decimalValue 0 cs with
    | some n => .ok n
    | none => .error (.notDecimal cs)

/-- The wording of a numeral's failure. A quoted text is cut after two hundred characters, its
opening quote included. -/
def NumeralFault.message : NumeralFault → String
  | .notDecimal text =>
    "invalid literal for int() with base 10: "
      ++ String.ofList ((['\x27'] ++ text ++ ['\x27']).take 200)
  | .tooLong digits =>
    s!"Exceeds the limit ({maxNumeralDigits} digits) for integer string conversion: "
      ++ s!"value has {digits} digits; use sys.set_int_max_str_digits() to increase the limit"

end ServerActions.Text
