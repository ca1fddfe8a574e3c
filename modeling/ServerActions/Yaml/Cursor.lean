import ServerActions.Text.Surrogate
import ServerActions.Yaml.Fault

/-!
# Places in a YAML text

A place in a text with its line and its column, and the moves from there.

## Main definitions

* `Cursor` — the text still to be read, and where it starts.
* `Cursor.next`, `Cursor.advance`, `Cursor.span` — one character on, several, and as long as they
  are of a kind.
* `Cursor.lineBreak` — the end of a line and the text that it stands for.
-/

namespace ServerActions.Yaml

/-- The text still to be read, the count of the characters before it, its line and its column. -/
structure Cursor where
  rest : List Char
  index : Nat
  line : Nat
  column : Nat
  deriving Repr, Inhabited

/-- The start of a text. -/
def Cursor.start (cs : List Char) : Cursor := ⟨cs, 0, 0, 0⟩

/-- The character that stands for the end of a text; no text holds it. -/
def endMark : Char := '\x00'

/-- The end of a line. -/
def isBreak (c : Char) : Bool :=
  c = '\n' || c = '\r' || c = '\x85' || c = '\u2028' || c = '\u2029'

/-- The end of a line or of the text. -/
def isBreakOrEnd (c : Char) : Bool := isBreak c || c = endMark

/-- A space or a tab. -/
def isBlank (c : Char) : Bool := c = ' ' || c = '\t'

/-- A blank, or the end of a line or of the text. -/
def isGap (c : Char) : Bool := isBlank c || isBreakOrEnd c

/-- The character at a place. -/
def Cursor.here (c : Cursor) : Char := c.rest.headD endMark

/-- The character some way on. -/
def Cursor.peek (c : Cursor) (n : Nat) : Char := (c.rest.drop n).headD endMark

/-- The place one character on.  Code points are counted, however they are spelled. -/
def Cursor.next (c : Cursor) : Cursor :=
  match c.rest with
  | [] => c
  | x :: rest =>
    if x = Text.asItIs then { c with rest }
    else if isBreak x && !(x = '\r' && rest.head? = some '\n') then
      ⟨rest, c.index + 1, c.line + 1, 0⟩
    else ⟨rest, c.index + 1, c.line, if x = '\uFEFF' then c.column else c.column + 1⟩

/-- The place some characters on. -/
def Cursor.advance (c : Cursor) : Nat → Cursor
  | 0 => c
  | n + 1 => c.next.advance n

/-- The characters of a kind at a place, and the place after them. -/
def Cursor.span (c : Cursor) (p : Char → Bool) : List Char × Cursor :=
  let taken := c.rest.takeWhile p
  (taken, c.advance taken.length)

/-- The place after the characters of a kind. -/
def Cursor.skip (c : Cursor) (p : Char → Bool) : Cursor := (c.span p).2

/-- The place after the spaces. -/
def Cursor.skipSpaces (c : Cursor) : Cursor := c.skip (· == ' ')

/-- The text that the end of a line stands for, and the place after it; nothing where no line
ends. -/
def Cursor.lineBreak (c : Cursor) : List Char × Cursor :=
  match c.rest with
  | '\r' :: '\n' :: _ => (['\n'], c.advance 2)
  | x :: _ =>
    if x = '\r' || x = '\n' || x = '\x85' then (['\n'], c.next)
    else if isBreak x then ([x], c.next)
    else ([], c)
  | [] => ([], c)

/-- Whether three characters of a kind stand here, with a gap after them. -/
def Cursor.isTripled (c : Cursor) (x : Char) : Bool :=
  c.rest.take 3 == [x, x, x] && isGap (c.peek 3)

/-- Whether the mark of a document's start or end stands here. -/
def Cursor.isDocumentMark (c : Cursor) : Bool := c.isTripled '-' || c.isTripled '.'

/-- The place after a comment, if there is one. -/
def Cursor.skipComment (c : Cursor) : Cursor :=
  if c.here = '#' then c.skip (!isBreakOrEnd ·) else c

/-- The place after what may follow at the end of a line: spaces, a comment and the line's end. -/
def Cursor.finishLine (c : Cursor) : Except Fault Cursor :=
  let c := c.skipSpaces.skipComment
  if isBreakOrEnd c.here then .ok c.lineBreak.2 else .error .malformed

end ServerActions.Yaml
