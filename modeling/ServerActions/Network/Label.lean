import ServerActions.Network.LabelCharacter
import ServerActions.Network.Punycode
import ServerActions.Text.Direction
import ServerActions.Text.Joining
import ServerActions.Text.Normal
import ServerActions.Text.Script
import ServerActions.Text.Split

/-!
# Labels of host names

The labels that a host name may have in any script, and how they are written in ASCII.

## Main definitions

* `isAllowedHere` — whether a character may stand between those around it.
* `areGoodDirections` — whether letters written from right to left go with the others.
* `isLabel` — whether a text is a label.
* `asciiLabel?`, `asciiHost?` — a label and a host name in ASCII.
-/

namespace ServerActions.Network

open Text (Direction Script)

/-! ### Characters in their surroundings -/

/-- Whether the nearest character that letters do not join across has a property. -/
def nearestJoins (joins : Char → Bool) (cs : List Char) : Bool :=
  ((cs.dropWhile Text.isSkippedInJoining).head?).any joins

/-- Whether a sign behind which no vowel is spoken stands before a place. -/
def followsVirama (before : List Char) : Bool :=
  before.head?.any fun c => Text.combiningClass c = Text.viramaClass

/-- The two sets of digits that are not to be mixed. -/
def arabicDigit (c : Char) : Bool := 0x660 ≤ c.toNat && c.toNat ≤ 0x669

/-- The digits used with Persian and Urdu. -/
def extendedArabicDigit (c : Char) : Bool := 0x6F0 ≤ c.toNat && c.toNat ≤ 0x6F9

/-- Whether a character may stand between those before it, which are in reverse, and those after
it. -/
def isAllowedHere (before : List Char) (c : Char) (after : List Char) : Bool :=
  let around := before ++ after
  if isLabelCharacter c then true
  else if c = '\u200c' then
    followsVirama before
      || (nearestJoins Text.joinsNext before && nearestJoins Text.joinsPrevious after)
  else if c = '\u200d' then followsVirama before
  else if c = '\u00b7' then before.head? = some 'l' && after.head? = some 'l'
  else if c = '\u0375' then after.head?.any Script.greek.has
  else if c = '\u05f3' || c = '\u05f4' then before.head?.any Script.hebrew.has
  else if c = '\u30fb' then
    around.any fun d =>
      d ≠ c && (Script.hiragana.has d || Script.katakana.has d || Script.han.has d)
  else if arabicDigit c then !around.any extendedArabicDigit
  else if extendedArabicDigit c then !around.any arabicDigit
  else false

/-- Whether every character may stand where it does, behind those in `before`. -/
def allAllowed (before : List Char) : List Char → Bool
  | [] => true
  | c :: cs => isAllowedHere before c cs && allAllowed (c :: before) cs

/-! ### Directions -/

/-- Whether a label of these kinds of characters is written from right to left somewhere. -/
def turnsAround (ds : List Direction) : Bool :=
  ds.any fun d => d = .rightToLeft || d = .arabicLetter || d = .arabicNumber

/-- The last kind that is none of a mark. -/
def lastKind? (ds : List Direction) : Option Direction :=
  ds.reverse.find? (· ≠ .mark)

/-- Whether letters written from right to left go with the others.  A label that has some begins
with one, has no letters of the other direction, ends with a letter or a number and has numbers of
one sort only. -/
def areGoodDirections (ds : List Direction) : Bool :=
  !turnsAround ds
    || (ds.head?.any (fun d => d = .rightToLeft || d = .arabicLetter)
      && !ds.contains .leftToRight
      && (lastKind? ds).any (fun d =>
        d = .rightToLeft || d = .arabicLetter || d = .europeanNumber || d = .arabicNumber)
      && !(ds.contains .arabicNumber && ds.contains .europeanNumber))

/-! ### Labels -/

/-- Whether the hyphens of a label are where they may be. -/
def hasGoodHyphens (label : List Char) : Bool :=
  (label.drop 2).take 2 ≠ ['-', '-'] && label.head? ≠ some '-' && label.getLast? ≠ some '-'

/-- Whether a text is a label: in normal form, with its hyphens inside and not beginning with a
mark, and every character in a place where it may be. -/
def isLabel (label : List Char) : Bool :=
  !label.isEmpty && hasGoodHyphens label && !label.head?.any Text.isMark && allAllowed [] label
    && Text.isNormal label && areGoodDirections (label.map Text.direction)

/-- What a label that is written with other characters begins with in ASCII. -/
def asciiMark : List Char := "xn--".toList

/-- A label has at most this many characters in ASCII. -/
def maxLabelSize : Nat := 63

/-- Whether a label in ASCII stands for a label. -/
def isAsciiLabel (label : List Char) : Bool :=
  if asciiMark.isPrefixOf label then
    let coded := label.drop asciiMark.length
    !coded.isEmpty && coded.getLast? ≠ some '-' && (unpunycode? coded).any isLabel
  else isLabel label

/-- A label in lower case in ASCII, if it is one. -/
def asciiLabel? (label : List Char) : Option (List Char) :=
  let written :=
    if label.all fun c => c.toNat < 128 then
      if isAsciiLabel label then some label else none
    else if isLabel label then some (asciiMark ++ punycode label)
    else none
  written.filter fun l => l.length ≤ maxLabelSize

/-! ### Host names -/

/-- The points between the labels of a host name. -/
def isLabelEnd (c : Char) : Bool :=
  c = '.' || c = '\u3002' || c = '\uff0e' || c = '\uff61'

/-- A host name has at most this many characters in ASCII, beside a point at its end. -/
def maxHostSize : Nat := 253

/-- A host name in lower case in ASCII, unless it is none.  A point may stand at its end. -/
def asciiHost? (host : List Char) : Option (List Char) := do
  let labels := Text.cut '.' (host.map fun c => if isLabelEnd c then '.' else c)
  let named := if labels.getLast? = some [] then labels.dropLast else labels
  if named.isEmpty then none
  let written ← named.mapM asciiLabel?
  let ending := if named.length < labels.length then ['.'] else []
  let text := Text.joinWith '.' written
  if maxHostSize < text.length then none else some (text ++ ending)

end ServerActions.Network
