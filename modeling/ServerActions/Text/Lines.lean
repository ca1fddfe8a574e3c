import ServerActions.Text.Blank
import ServerActions.Text.Split

/-!
# Lines

A text cut into lines, the margin its lines share, and a margin put before them.

## Main definitions

* `Line`, `lines` — a text as lines, each with the characters that end it; a carriage return and a
  line feed together end one line.
* `lineTexts` — the lines without their ends.
* `withLineFeeds` — a text in which lines end with line feeds only.
* `dedent` — the text without the margin common to its lines.
* `indent` — the text with a margin before each line that is not blank.

## Main statements

* `flatten_lines` — the lines of a text, put together again, are the text.
-/

namespace ServerActions.Text

/-- A line and the characters that end it, of which the last line of a text may have none. -/
structure Line where
  text : List Char
  ending : List Char
  deriving DecidableEq, Repr

/-- The line with one more character in front. -/
def Line.cons (c : Char) (l : Line) : Line :=
  { l with text := c :: l.text }

/-- The line and its end, as one text. -/
def Line.whole (l : Line) : List Char :=
  l.text ++ l.ending

/-- The lines of a text. -/
def lines : List Char → List Line
  | [] => []
  | '\r' :: '\n' :: rest => ⟨[], ['\r', '\n']⟩ :: lines rest
  | c :: rest =>
    if isLineEnd c then ⟨[], [c]⟩ :: lines rest
    else match lines rest with
      | [] => [⟨[c], []⟩]
      | l :: ls => l.cons c :: ls

/-- The lines of a text without the characters that end them. -/
def lineTexts (cs : List Char) : List (List Char) :=
  (lines cs).map Line.text

/-- The lines of a text, put together again, are the text. -/
theorem flatten_lines (cs : List Char) : ((lines cs).map Line.whole).flatten = cs := by
  fun_induction lines cs with
  | case1 => rfl
  | case2 rest ih => simp [Line.whole, ih]
  | case3 c rest _ h ih => simp [Line.whole, ih]
  | case4 c rest _ h hl ih => simp [hl] at ih; simp [Line.whole, ← ih]
  | case5 c rest _ h l ls hl ih => rw [hl] at ih; simp_all [Line.whole, Line.cons]

/-- The text in which every line feed, carriage return and pair of the two is one line feed. -/
def withLineFeeds : List Char → List Char
  | [] => []
  | '\r' :: '\n' :: cs => '\n' :: withLineFeeds cs
  | '\r' :: cs => '\n' :: withLineFeeds cs
  | c :: cs => c :: withLineFeeds cs

/-! ### Margins -/

/-- The text cut at its line feeds alone. -/
def rows : List Char → List (List Char) :=
  cut '\n'

/-- A margin is made of spaces and tabs. -/
def isMarginChar (c : Char) : Bool :=
  c = ' ' || c = '\t'

/-- The longest text with which both texts begin. -/
def commonStart : List Char → List Char → List Char
  | a :: as, b :: bs => if a = b then a :: commonStart as bs else []
  | _, _ => []

/-- The longest margin with which every row begins that holds more than a margin, or `none` when
there is no such row. -/
def commonMargin : List (List Char) → Option (List Char)
  | [] => none
  | r :: rs =>
    if r.all isMarginChar then commonMargin rs
    else match commonMargin rs with
      | none => some (r.takeWhile isMarginChar)
      | some m => some (commonStart (r.takeWhile isMarginChar) m)

/-- The text without the margin common to its rows; a row that holds only a margin becomes empty. -/
def dedent (cs : List Char) : List Char :=
  let width := ((commonMargin (rows cs)).getD []).length
  joinWith '\n' ((rows cs).map fun r => if r.all isMarginChar then [] else r.drop width)

/-- The text with `margin` before each line that holds a character that is not blank. -/
def indent (margin cs : List Char) : List Char :=
  ((lines cs).map fun l => if l.whole.all isBlank then l.whole else margin ++ l.whole).flatten

end ServerActions.Text
