import ServerActions.Console.Cells
import ServerActions.Text.Blank
import ServerActions.Text.Lines
import ServerActions.Text.Split

/-!
# Lines on the console

Texts laid out in lines of at most the console's width, with spaces for tabs.

## Main definitions

* `withoutTabs` — a line in which spaces stand for tabs.
* `wrapped` — a text broken into lines between words, and inside those that are too long.
* `besideMark` — a text behind a mark, in lines that are cut at the width that is left.
-/

namespace ServerActions.Console

/-- The width of the columns that tabs lead to. -/
def tabWidth : Nat := 8

/-- A line from a cell on in which spaces stand for tabs. -/
def withoutTabs : Nat → List Char → List Char
  | _, [] => []
  | column, c :: cs =>
    if c = '\t' then
      let room := tabWidth - column % tabWidth
      List.replicate room ' ' ++ withoutTabs (column + room) cs
    else c :: withoutTabs (column + cells c) cs

/-- The lines of a text without tabs. -/
def plainLines (cs : List Char) : List (List Char) :=
  (Text.cut '\n' cs).map (withoutTabs 0)

/-! ### Breaking -/

/-- A word with the blanks after it; the blanks before it are part of it at the head of a line. -/
def firstWord (cs : List Char) : List Char :=
  let blanks := cs.takeWhile Text.isBlank
  let letters := (cs.drop blanks.length).takeWhile (!Text.isBlank ·)
  let after := (cs.drop (blanks.length + letters.length)).takeWhile Text.isBlank
  blanks ++ letters ++ after

/-- The words of a line; a line of blanks has none. -/
def lineWords : Nat → List Char → List (List Char)
  | 0, _ => []
  | bound + 1, cs =>
    if cs.all Text.isBlank then []
    else
      let word := firstWord cs
      word :: lineWords bound (cs.drop word.length)

/-- A text cut into pieces of at most so many cells, of which the first has `used` cells before
it. -/
def chopped (room used : Nat) (line : List Char) : List Char → List (List Char)
  | [] => [line.reverse]
  | c :: cs =>
    if room < used + cells c then line.reverse :: chopped room (cells c) [c] cs
    else chopped room (used + cells c) (c :: line) cs

/-- The lines that words make behind the line begun so far. -/
def filled (room : Nat) (line : List Char) : List (List Char) → List (List Char)
  | [] => [line]
  | word :: words =>
    let size := width (Text.trimRight word)
    if width line + size ≤ room then filled room (line ++ word) words
    else
      let begun := if line.isEmpty then [] else [line]
      if room < size then
        let pieces := chopped room 0 [] word
        begun ++ pieces.dropLast ++ filled room (pieces.getLast?.getD []) words
      else begun ++ filled room word words

/-- A line without those blanks at its end that are beyond the width. -/
def withoutOverhang (room : Nat) (cs : List Char) : List Char :=
  let blanks := (cs.reverse.takeWhile Text.isBlank).length
  cs.take (cs.length - min blanks (cs.length - room))

/-- A text in lines of at most so many cells, broken between words where that is possible. -/
def wrapped (room : Nat) (cs : List Char) : List (List Char) :=
  (plainLines cs).flatMap fun line =>
    let lines := if width line ≤ room then [line] else filled room [] (lineWords line.length line)
    lines.map fun l => cutTo room (withoutOverhang room l)

/-! ### Beside a mark -/

/-- The width of the console. -/
def consoleWidth : Nat := 5000

/-- The room that a mark with a space takes. -/
def markWidth : Nat := 2

/-- The lines of a text behind a mark and a space.  The width of the text is taken before tabs are
replaced, and what goes beyond it is cut; a text that leaves no room for the mark stands alone. -/
def besideMark (mark : Char) (cs : List Char) : List (List Char) :=
  let room := max 1 (((Text.lineTexts cs).map width).foldl max 0)
  let space := min markWidth (consoleWidth - room)
  let first := if space = markWidth then [mark, ' '] else List.replicate space ' '
  let lines := (plainLines cs).map fun l =>
    shortened (min room consoleWidth) (withoutOverhang (min room consoleWidth) l)
  match lines with
  | [] => []
  | l :: ls => (first ++ l) :: ls.map (List.replicate space ' ' ++ ·)

/-- Lines as texts without blanks at their ends. -/
def texts (lines : List (List Char)) : List String :=
  lines.map fun l => String.ofList (Text.trimRight l)

/-- The lines that a text is printed as. -/
def printed (cs : List Char) : List String :=
  texts (wrapped consoleWidth cs)

end ServerActions.Console
