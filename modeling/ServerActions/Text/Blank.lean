/-!
# Blank characters

Which characters count as blank and which end a line, and how blanks are removed from the two ends
of a text.

## Main definitions

* `isBlank c` — `c` separates words: the separators of the Unicode character database together with
  the control characters that end a line, a field or a group.
* `isLineEnd c` — `c` ends a line; every such character is blank.
* `trimLeft`, `trimRight`, `trim` — a text without the blanks at its ends.
-/

namespace ServerActions.Text

/-- The blank characters: tab to carriage return, the four information separators, the space, the
next-line character, the no-break space and the separators of the Unicode character database. -/
def isBlank (c : Char) : Bool :=
  let n := c.toNat
  (9 ≤ n && n ≤ 13) || (28 ≤ n && n ≤ 32) || n = 0x85 || n = 0xA0 || n = 0x1680
    || (0x2000 ≤ n && n ≤ 0x200A) || n = 0x2028 || n = 0x2029 || n = 0x202F || n = 0x205F
    || n = 0x3000

/-- The characters that end a line: line feed to carriage return, three information separators, the
next-line character and the line and paragraph separators. -/
def isLineEnd (c : Char) : Bool :=
  let n := c.toNat
  (10 ≤ n && n ≤ 13) || (28 ≤ n && n ≤ 30) || n = 0x85 || n = 0x2028 || n = 0x2029

/-- The text from its first character that is not blank. -/
def trimLeft (cs : List Char) : List Char :=
  cs.dropWhile isBlank

/-- The text up to its last character that is not blank. -/
def trimRight (cs : List Char) : List Char :=
  (cs.reverse.dropWhile isBlank).reverse

/-- The text between its first and its last character that is not blank. -/
def trim (cs : List Char) : List Char :=
  trimRight (trimLeft cs)

@[simp] theorem trimRight_nil : trimRight [] = [] := rfl

@[simp] theorem trim_nil : trim [] = [] := rfl

end ServerActions.Text
