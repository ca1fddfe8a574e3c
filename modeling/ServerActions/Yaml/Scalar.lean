import ServerActions.Json.Reader
import ServerActions.Text.Utf8
import ServerActions.Yaml.Cursor

/-!
# Scalars of a YAML text

Texts in quotes, plain texts and blocks of lines, with lines folded together.

## Main definitions

* `quotedScalar` — a text between quotes.
* `plainScalar` — a text without quotes.
* `blockScalar` — the lines below an indicator.
* `anchorName`, `tagText` — the name after an anchor or alias, and the text of a tag.
-/

namespace ServerActions.Yaml

/-! ### Text in quotes -/

/-- The line ends at a place, between blanks.  The mark of a document may not stand among them. -/
def foldedBreaks : Nat → Cursor → Except Fault (List Char × Cursor)
  | 0, c => .ok ([], c)
  | bound + 1, c =>
    if c.isDocumentMark then .error .malformed
    else
      let c := c.skip isBlank
      if isBreak c.here then do
        let (b, c) := c.lineBreak
        let (bs, c) ← foldedBreaks bound c
        return (b ++ bs, c)
      else .ok ([], c)

/-- The line end at a place with the empty lines after it: one line end becomes a space. -/
def foldedLine (c : Cursor) : Except Fault (List Char × Cursor) := do
  let (b, c) := c.lineBreak
  let (bs, c) ← foldedBreaks (c.rest.length + 1) c
  let start := if b ≠ ['\n'] then b else if bs.isEmpty then [' '] else []
  return (start ++ bs, c)

/-- The blanks at a place inside quotes: dropped where the line ends, and kept elsewhere. -/
def quotedBlanks (c : Cursor) : Except Fault (List Char × Cursor) :=
  let (blanks, c) := c.span isBlank
  if c.rest.isEmpty then .error .malformed
  else if isBreak c.here then foldedLine c
  else .ok (blanks, c)

/-- The character that an escape of one letter stands for. -/
def escaped? (x : Char) : Option Char :=
  [('0', '\x00'), ('a', '\x07'), ('b', '\x08'), ('t', '\t'), ('\t', '\t'), ('n', '\n'),
   ('v', '\x0b'), ('f', '\x0c'), ('r', '\r'), ('e', '\x1b'), (' ', ' '), ('"', '"'), ('\\', '\\'),
   ('/', '/'), ('N', '\x85'), ('_', '\xa0'), ('L', '\u2028'), ('P', '\u2029')].lookup x

/-- The count of hexadecimal digits after the letter of an escape. -/
def escapeDigits? (x : Char) : Option Nat :=
  [('x', 2), ('u', 4), ('U', 8)].lookup x

/-- The text of a code point, which may be a surrogate. -/
def pointText (n : Nat) : Except Fault (List Char) :=
  if n < 0x110000 then .ok (Text.spelled n) else .error (.noCharacter n)

/-- What an escape stands for, at the place after its backslash. -/
def escape (c : Cursor) : Except Fault (List Char × Cursor) :=
  match escaped? c.here with
  | some x => .ok ([x], c.next)
  | none =>
    match escapeDigits? c.here with
    | some count =>
      let digits := c.next.rest.take count
      match Text.hexNumber? digits with
      | some n =>
        if digits.length = count then do
          let cs ← pointText n
          return (cs, c.next.advance count)
        else .error .malformed
      | none => .error .malformed
    | none =>
      if isBreak c.here then foldedBreaks (c.rest.length + 1) c.lineBreak.2 else .error .malformed

/-- The text up to the closing quote, and the place after it. -/
def quotedText (double : Bool) : Nat → Cursor → Except Fault (List Char × Cursor)
  | 0, _ => .error .malformed
  | bound + 1, c =>
    let x := c.here
    let goOn (start : List Char × Cursor) : Except Fault (List Char × Cursor) := do
      let (cs, after) ← quotedText double bound start.2
      return (start.1 ++ cs, after)
    if c.rest.isEmpty then .error .malformed
    else if isBlank x || isBreak x then do goOn (← quotedBlanks c)
    else if double then
      if x = '"' then .ok ([], c.next)
      else if x = '\\' then do goOn (← escape c.next)
      else goOn ([x], c.next)
    else if x = '\x27' then
      if c.peek 1 = '\x27' then goOn (['\x27'], c.advance 2) else .ok ([], c.next)
    else goOn ([x], c.next)

/-- The text between quotes at a place. -/
def quotedScalar (c : Cursor) : Except Fault (List Char × Cursor) :=
  quotedText (c.here = '"') (c.rest.length + 1) c.next

/-! ### Plain text -/

/-- Whether a character may begin a plain text. -/
def startsPlain (inFlow : Bool) (c : Cursor) : Bool :=
  let x := c.here
  !(isGap x || "-?:,[]\x7b\x7d#&*!|>'\"%@\x60".toList.contains x)
    || (!isGap (c.peek 1) && (x = '-' || (!inFlow && (x = '?' || x = ':'))))

/-- The characters of a plain text up to a gap or an indicator. -/
def plainWord (inFlow : Bool) : List Char → List Char
  | [] => []
  | x :: rest =>
    let after := rest.headD endMark
    if isGap x || (x = ':' && (isGap after || (inFlow && ",[]\x7b\x7d".toList.contains after)))
        || (inFlow && ",?[]\x7b\x7d".toList.contains x) then []
    else x :: plainWord inFlow rest

/-- The empty lines at a place, or nothing where the mark of a document stands. -/
def plainBreaks : Nat → Cursor → Option (List Char) × Cursor
  | 0, c => (some [], c)
  | bound + 1, c =>
    let c := c.skipSpaces
    if isBreak c.here then
      let (b, c) := c.lineBreak
      if c.isDocumentMark then (none, c)
      else
        let (bs, c) := plainBreaks bound c
        (bs.map (b ++ ·), c)
    else (some [], c)

/-- What comes after a word of plain text: the blanks or line ends before the next word, the place
after them and whether a line ended. -/
structure PlainGap where
  text : List Char
  cursor : Cursor
  lineEnded : Bool

/-- What comes after a word of plain text. -/
def plainGap (c : Cursor) : PlainGap :=
  let (spaces, c) := c.span (· == ' ')
  if isBreak c.here then
    let (b, c) := c.lineBreak
    if c.isDocumentMark then ⟨[], c, true⟩
    else match plainBreaks (c.rest.length + 1) c with
      | (none, c) => ⟨[], c, true⟩
      | (some bs, c) =>
        let start := if b ≠ ['\n'] then b else if bs.isEmpty then [' '] else []
        ⟨start ++ bs, c, true⟩
  else ⟨spaces, c, false⟩

/-- The words of a plain text, each after the gap before it, as long as they are at least `margin`
characters from the start of their line. -/
def plainText (inFlow : Bool) (margin : Nat) : Nat → PlainGap → List Char × PlainGap
  | 0, gap => ([], gap)
  | bound + 1, gap =>
    let c := gap.cursor
    let word := if c.here = '#' then [] else plainWord inFlow c.rest
    if word.isEmpty then ([], gap)
    else
      let after := plainGap (c.advance word.length)
      let start := gap.text ++ word
      if after.text.isEmpty || after.cursor.here = '#'
          || (!inFlow && after.cursor.column < margin) then (start, after)
      else
        let (more, last) := plainText inFlow margin bound after
        (start ++ more, last)

/-- The plain text at a place, the place after it and whether its last line ended. -/
def plainScalar (inFlow : Bool) (margin : Nat) (c : Cursor) : List Char × PlainGap :=
  plainText inFlow margin (c.rest.length + 1) ⟨[], c, false⟩

/-! ### Blocks -/

/-- What becomes of the line ends after a block: the last is kept, all are, or none is. -/
inductive Chomping
  | clip
  | keep
  | strip
  deriving DecidableEq, Repr

/-- The chomping that a character asks for. -/
def chomping? (x : Char) : Option Chomping :=
  if x = '+' then some .keep else if x = '-' then some .strip else none

/-- The indentation that a character asks for. -/
def increment? (x : Char) : Option Nat :=
  if x.isDigit then some (x.toNat - 48) else none

/-- The chomping and the indentation that the header of a block asks for, in either order. -/
def blockHeader (c : Cursor) : Except Fault (Chomping × Option Nat × Cursor) := do
  let (chomping, increment, c) :=
    match chomping? c.here with
    | some k =>
      match increment? c.next.here with
      | some n => (k, some n, c.advance 2)
      | none => (k, none, c.next)
    | none =>
      match increment? c.here with
      | some n =>
        match chomping? c.next.here with
        | some k => (k, some n, c.advance 2)
        | none => (.clip, some n, c.next)
      | none => (.clip, none, c)
  if increment = some 0 || !(c.here = ' ' || isBreakOrEnd c.here) then throw .malformed
  return (chomping, increment, c)

/-- The empty lines before a block whose indentation is to be found, the largest column among them
and the place after them. -/
def blockIndentation : Nat → Nat → Cursor → List Char × Nat × Cursor
  | 0, widest, c => ([], widest, c)
  | bound + 1, widest, c =>
    if c.here = ' ' then
      let c := c.next
      blockIndentation bound (max widest c.column) c
    else if isBreak c.here then
      let (b, c) := c.lineBreak
      let (bs, widest, c) := blockIndentation bound widest c
      (b ++ bs, widest, c)
    else ([], widest, c)

/-- The place after the spaces before a column. -/
def skipTo (column : Nat) (c : Cursor) : Cursor :=
  c.advance ((c.rest.take (column - c.column)).takeWhile (· == ' ')).length

/-- The empty lines inside a block, and the place after them. -/
def blockBreaks (indent : Nat) : Nat → Cursor → List Char × Cursor
  | 0, c => ([], c)
  | bound + 1, c =>
    let c := skipTo indent c
    if isBreak c.here then
      let (b, c) := c.lineBreak
      let (bs, c) := blockBreaks indent bound c
      (b ++ bs, c)
    else ([], c)

/-- The lines of a block from a line that has its indentation, after the empty lines `breaks`. -/
def blockLines (folded : Bool) (chomping : Chomping) (indent : Nat) :
    Nat → List Char → Cursor → List Char × Cursor
  | 0, _, c => ([], c)
  | bound + 1, breaks, c =>
    let (line, after) := c.span (!isBreakOrEnd ·)
    let (b, after) := after.lineBreak
    let (bs, after) := blockBreaks indent (after.rest.length + 1) after
    if after.column = indent && !after.rest.isEmpty then
      let joint :=
        if folded && b = ['\n'] && !isBlank c.here && !isBlank after.here then
          if bs.isEmpty then [' '] else []
        else b
      let (more, last) := blockLines folded chomping indent bound bs after
      (breaks ++ line ++ joint ++ more, last)
    else
      let tail := match chomping with
        | .clip => b
        | .keep => b ++ bs
        | .strip => []
      (breaks ++ line ++ tail, after)

/-- The block below an indicator, whose lines are at least `margin` characters from the start. -/
def blockScalar (margin : Nat) (c : Cursor) : Except Fault (List Char × Cursor) := do
  let folded := c.here = '>'
  let (chomping, increment, c) ← blockHeader c.next
  let c ← c.finishLine
  let margin := max margin 1
  let (breaks, indent, c) :=
    match increment with
    | none =>
      let (bs, widest, c) := blockIndentation (c.rest.length + 1) 0 c
      (bs, max margin widest, c)
    | some n =>
      let (bs, c) := blockBreaks (margin + n - 1) (c.rest.length + 1) c
      (bs, margin + n - 1, c)
  if c.column = indent && !c.rest.isEmpty then
    return blockLines folded chomping indent (c.rest.length + 1) breaks c
  else
    return (if chomping = .keep then breaks else [], c)

/-! ### Names and tags -/

/-- The characters of names. -/
def isNameChar (x : Char) : Bool := x.isAlphanum || x = '-' || x = '_'

/-- The name at a place, which has at least one character. -/
def name (c : Cursor) : Except Fault (List Char × Cursor) :=
  let (cs, c) := c.span isNameChar
  if cs.isEmpty then .error .malformed else .ok (cs, c)

/-- The name after the indicator of an anchor or an alias. -/
def anchorName (c : Cursor) : Except Fault (String × Cursor) := do
  let (cs, c) ← name c.next
  if !(isGap c.here || "?:,]\x7d%@\x60".toList.contains c.here) then throw .malformed
  return (String.ofList cs, c)

/-- The characters of the texts that tags are made of. -/
def isTagChar (x : Char) : Bool :=
  x.isAlphanum || "-;/?:@&=+$,_.!~*'()[]".toList.contains x

/-- The octets that escapes at a place denote. -/
def tagOctets : List Char → Option (List UInt8)
  | '%' :: a :: b :: rest => do
    let n ← Text.hexNumber? [a, b]
    let ns ← tagOctets rest
    return UInt8.ofNat n :: ns
  | '%' :: _ => none
  | _ => some []

/-- The text of a tag at a place, which has at least one character.  Escapes that follow each other
denote the octets of one text. -/
def tagChars : Nat → Cursor → Except Fault (List Char × Cursor)
  | 0, c => .ok ([], c)
  | bound + 1, c =>
    if c.here = '%' then
      match tagOctets c.rest with
      | none => .error .malformed
      | some octets =>
        match Text.Utf8.decode octets with
        | .error _ => .error .malformed
        | .ok cs => do
          let (more, c) ← tagChars bound (c.advance (3 * octets.length))
          return (Text.spellingOf cs ++ more, c)
    else
      let (cs, after) := c.span isTagChar
      if cs.isEmpty then .ok ([], c)
      else do
        let (more, c) ← tagChars bound after
        return (cs ++ more, c)

/-- The text of a tag at a place. -/
def tagSuffix (c : Cursor) : Except Fault (String × Cursor) :=
  if !(isTagChar c.here || c.here = '%') then .error .malformed
  else do
    let (cs, c) ← tagChars (c.rest.length + 1) c
    return (String.ofList cs, c)

/-- The handle of a tag at a place: an exclamation mark, alone or with a name and another one. -/
def tagHandle (c : Cursor) : Except Fault (String × Cursor) :=
  if c.here ≠ '!' then .error .malformed
  else if c.peek 1 = ' ' then .ok ("!", c.next)
  else
    let (cs, after) := c.next.span isNameChar
    if after.here = '!' then .ok (String.ofList ('!' :: cs ++ ['!']), after.next)
    else .error .malformed

/-- The handle, if there is one, and the rest of a tag at a place. -/
def tagText (c : Cursor) : Except Fault (Option String × String × Cursor) := do
  let (handle, suffix, c) ←
    if c.peek 1 = '<' then do
      let (s, c) ← tagSuffix (c.advance 2)
      if c.here ≠ '>' then throw .malformed
      pure (none, s, c.next)
    else if isGap (c.peek 1) then pure (none, "!", c.next)
    else if (c.next.rest.takeWhile fun x => !(x = ' ' || isBreakOrEnd x)).contains '!' then do
      let (h, c) ← tagHandle c
      let (s, c) ← tagSuffix c
      pure (some h, s, c)
    else do
      let (s, c) ← tagSuffix c.next
      pure (some "!", s, c)
  if !(c.here = ' ' || isBreakOrEnd c.here) then throw .malformed
  return (handle, suffix, c)

end ServerActions.Yaml
