import ServerActions.Text.Charset.Wide
import ServerActions.Text.Digit

/-!
# Character sets with escapes

Text of one octet for each character, in which backslashes begin escapes.

## Main definitions

* `rawEscapes` — the code points of a text in which only the escapes for code points count, behind an
  odd number of backslashes.
* `escapes` — the code points of a text in which all escapes count.
-/

namespace ServerActions.Text.Charset

/-- The code point of a number, which may be a surrogate. -/
def ofCode (n : Nat) : Nat :=
  if n < 0x110000 then n else replacement.toNat

/-- The hexadecimal digits at the head of a text, of which `count` are looked for. -/
def hexDigits (count : Nat) (cs : List Char) : List Char :=
  (cs.take count).takeWhile fun c => (hexValue? c).isSome

/-- The count of digits behind the letter of an escape for a code point. -/
def codeDigits? (c : Char) : Option Nat :=
  [('u', 4), ('U', 8)].lookup c

/-- What the digits of an escape stand for, and the text after them.  An escape with too few digits
is replaced as far as it goes. -/
def codeEscape (count : Nat) (cs : List Char) : Nat × List Char :=
  let ds := hexDigits count cs
  (if ds.length = count then ofCode ((hexNumber? ds).getD 0) else replacement.toNat,
    cs.drop ds.length)

/-- The code points of a text in which only escapes for code points count; `even` tells whether the backslashes
before a place, if any, go in pairs. -/
def rawEscapes : Nat → Bool → List Char → List Nat
  | 0, _, _ => []
  | _, _, [] => []
  | bound + 1, even, c :: cs =>
    if c = '\\' then
      match even, cs.head?.bind codeDigits? with
      | true, some count =>
        let (x, rest) := codeEscape count (cs.drop 1)
        x :: rawEscapes bound true rest
      | true, none => c.toNat :: rawEscapes bound false cs
      | false, _ => c.toNat :: rawEscapes bound true cs
    else c.toNat :: rawEscapes bound true cs

/-- The characters that escapes of one letter stand for. -/
def letterEscapes : List (Char × Char) :=
  [('\\', '\\'), ('\x27', '\x27'), ('"', '"'), ('b', '\x08'), ('f', '\x0c'), ('t', '\t'),
   ('n', '\n'), ('r', '\r'), ('v', '\x0b'), ('a', '\x07')]

/-- A digit below eight. -/
def isOctal (c : Char) : Bool := '0' ≤ c && c ≤ '7'

/-- The code points of a text in which all escapes count. -/
def escapes : Nat → List Char → List Nat
  | 0, _ => []
  | _, [] => []
  | bound + 1, '\\' :: cs =>
    match cs with
    | [] => [replacement.toNat]
    | c :: rest =>
      if c = '\n' then escapes bound rest
      else match letterEscapes.lookup c with
        | some x => x.toNat :: escapes bound rest
        | none =>
          if isOctal c then
            let ds := (cs.take 3).takeWhile isOctal
            let n := ds.foldl (fun n d => n * 8 + (d.toNat - 48)) 0
            ofCode n :: escapes bound (cs.drop ds.length)
          else match if c = 'x' then some 2 else codeDigits? c with
            | some count =>
              let (x, rest) := codeEscape count rest
              x :: escapes bound rest
            | none =>
              if c = 'N' then replacement.toNat :: escapes bound rest
              else '\\'.toNat :: c.toNat :: escapes bound rest
  | bound + 1, c :: cs => c.toNat :: escapes bound cs

end ServerActions.Text.Charset
