import ServerActions.Text.Combining
import ServerActions.Text.Composition

/-!
# Normal form

The form of a text in which equal texts are spelled alike: with the marks on a letter in a fixed
order, and put together with it as far as there are characters for that.

## Main definitions

* `decomposed` — a text with every character replaced by its parts.
* `ordered` — a text with the marks after each letter in the order of their classes.
* `composed` — a text with parts put together.
* `normal`, `isNormal` — the normal form of a text, and whether a text is in it.
-/

namespace ServerActions.Text

/-- The parts of a character, and of those the parts again, in so many steps. -/
def decomposition : Nat → Char → List Char
  | 0, c => [c]
  | bound + 1, c =>
    match parts? c with
    | some ps => ps.flatMap (decomposition bound)
    | none => [c]

/-- A text with every character replaced by its parts.  No character has parts of parts in more than
four steps. -/
def decomposed (cs : List Char) : List Char :=
  cs.flatMap (decomposition 4)

/-- A mark put before those of a higher class; those of its own class stay behind it. -/
def insertMark (c : Char) : List Char → List Char
  | [] => [c]
  | d :: ds =>
    if combiningClass d = 0 || combiningClass c ≤ combiningClass d then c :: d :: ds
    else d :: insertMark c ds

/-- A text with the marks after each letter in the order of their classes. -/
def ordered : List Char → List Char
  | [] => []
  | c :: cs => if combiningClass c = 0 then c :: ordered cs else insertMark c (ordered cs)

/-- A letter put together with the marks behind it.  The marks in `kept`, in reverse, stay between
them; a mark is out of reach behind one of its own class or a higher one. -/
def composedAfter (letter : Char) (kept : List Char) : List Char → List Char
  | [] => letter :: kept.reverse
  | c :: cs =>
    let isNear := match kept with
      | [] => true
      | d :: _ => combiningClass d < combiningClass c
    match if isNear then composite? letter c else none with
    | some whole => composedAfter whole kept cs
    | none =>
      if combiningClass c = 0 then letter :: kept.reverse ++ composedAfter c [] cs
      else composedAfter letter (c :: kept) cs

/-- A text with parts put together. -/
def composed : List Char → List Char
  | [] => []
  | c :: cs => if combiningClass c = 0 then composedAfter c [] cs else c :: composed cs

/-- The normal form of a text. -/
def normal (cs : List Char) : List Char :=
  composed (ordered (decomposed cs))

/-- Whether a text is in normal form. -/
def isNormal (cs : List Char) : Bool :=
  normal cs == cs

end ServerActions.Text
