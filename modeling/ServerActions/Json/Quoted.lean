import ServerActions.Text.Quoted
import ServerActions.Text.Surrogate

/-!
# JSON strings in ASCII

A text as a JSON string that holds visible ASCII characters alone: every other character is written
as an escape, those beyond sixteen bits as two surrogates.

## Main definitions

* `surrogates n` — the two surrogates of a code point beyond sixteen bits.
* `quote cs` — the text as a JSON string.
* `joined` — code units put together again: a high surrogate and a low one after it are one
  character.
-/

namespace ServerActions.Json

open Text (isHigh isLow)

/-- The high and the low surrogate of a code point beyond sixteen bits. -/
def surrogates (n : Nat) : Nat × Nat :=
  (0xD800 + (n - 0x10000) / 0x400, 0xDC00 + (n - 0x10000) % 0x400)

/-- The code units of a code point. -/
def codeUnits (n : Nat) : List Nat :=
  if n < 0x10000 then [n] else [(surrogates n).1, (surrogates n).2]

/-- A code unit as an escape of four hexadecimal digits. -/
def unitEscape (n : Nat) : List Char :=
  ['\\', 'u'] ++ Text.hex 4 n

/-- The letters that stand for code points after a backslash. -/
def escapeLetters : List (Nat × Char) :=
  [(0x22, '"'), (0x5C, '\\'), (0x0A, 'n'), (0x0D, 'r'), (0x09, 't'), (0x0C, 'f'), (0x08, 'b')]

/-- A code point inside a JSON string. -/
def quotedPoint (n : Nat) : List Char :=
  match escapeLetters.lookup n with
  | some c => ['\\', c]
  | none => if 32 ≤ n ∧ n < 127 then [Char.ofNat n] else (codeUnits n).flatMap unitEscape

/-- The text as a JSON string. -/
def quote (cs : List Char) : List Char :=
  ['"'] ++ (Text.points cs).flatMap quotedPoint ++ ['"']

/-- Code units put together as a text.  What is no code unit is spelled already. -/
def joined : List Nat → List Char
  | [] => []
  | [n] => [Text.symbol n]
  | h :: l :: rest =>
    if isHigh h && isLow l then
      Text.spelled (0x10000 + (h - 0xD800) * 0x400 + (l - 0xDC00)) ++ joined rest
    else Text.symbol h :: joined (l :: rest)

end ServerActions.Json
