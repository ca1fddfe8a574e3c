/-!
# Surrogates in texts

A text is a sequence of code points, and there may be surrogates among them, which are no
characters.  A surrogate is spelled by a private character that stands for it.  These characters
themselves, and the one that comes after them, are spelled by two: the first of the two says that
the second is meant as it is.

## Main definitions

* `isHigh`, `isLow`, `isSurrogate` — the code points that are surrogates.
* `spelling ns`, `spellingOf cs` — code points as a text, and characters that stand for themselves.
* `points cs` — the code points of a text.
* `lossy cs` — the text without its surrogates.
-/

namespace ServerActions.Text

/-- Whether a code point is a high surrogate. -/
def isHigh (n : Nat) : Bool := 0xD800 ≤ n && n < 0xDC00

/-- Whether a code point is a low surrogate. -/
def isLow (n : Nat) : Bool := 0xDC00 ≤ n && n < 0xE000

/-- Whether a code point is a surrogate. -/
def isSurrogate (n : Nat) : Bool := 0xD800 ≤ n && n < 0xE000

/-! ### Spelling -/

/-- What is added to a surrogate to make the character that stands for it. -/
def privateShift : Nat := 0x100000

/-- The character that says that the next one is meant as it is. -/
def asItIs : Char := Char.ofNat 0x10E000

/-- Whether a character stands for a surrogate, or says that the next one does not. -/
def isPrivate (n : Nat) : Bool := 0x10D800 ≤ n && n ≤ 0x10E000

/-- The character that stands for a code point. -/
def symbol (n : Nat) : Char :=
  Char.ofNat (if isSurrogate n then privateShift + n else n)

/-- A code point as it is spelled. -/
def spelled (n : Nat) : List Char :=
  if isPrivate n then [asItIs, symbol n] else [symbol n]

/-- Code points as a text. -/
def spelling (ns : List Nat) : List Char :=
  ns.flatMap spelled

/-- Characters that all stand for themselves, as a text. -/
def spellingOf (cs : List Char) : List Char :=
  spelling (cs.map Char.toNat)

/-- The code point that a character stands for on its own. -/
def point (c : Char) : Nat :=
  if isPrivate c.toNat && c ≠ asItIs then c.toNat - privateShift else c.toNat

/-- The code points of a text. -/
def points : List Char → List Nat
  | [] => []
  | [c] => [point c]
  | c :: d :: rest =>
    if c = asItIs && isPrivate d.toNat then d.toNat :: points rest
    else point c :: points (d :: rest)

/-- Whether there are surrogates in a text. -/
def hasSurrogates (cs : List Char) : Bool :=
  (points cs).any isSurrogate

/-- A text in which the octets that would stand for its surrogates are replaced, three for each. -/
def lossy (cs : List Char) : List Char :=
  (points cs).flatMap fun n =>
    if isSurrogate n then ['\uFFFD', '\uFFFD', '\uFFFD'] else spelled n

end ServerActions.Text
