import ServerActions.Json.Reader
import ServerActions.Toml.Table

/-!
# Reading TOML

The mapping that a document denotes.  Its lines end with line feeds.

## Main definitions

* `Fault` — why a text is no document.
* `keyAt`, `valueAt` — a key and a value at the head of a text, with the text after it.
* `read` — a whole document.
-/

namespace ServerActions.Toml

open Number (Binary64)

/-- Why a text is no document. -/
inductive Fault
  | malformed
  /-- An integer with too many digits. -/
  | tooLong (fault : Text.NumeralFault)
  /-- Arrays and tables lie too deep inside one another. -/
  | tooDeep
  deriving DecidableEq, Repr

/-! ### Characters -/

/-- A space or a tab. -/
def isSpacing (c : Char) : Bool := c = ' ' || c = '\t'

/-- A control character other than a tab. -/
def isControl (c : Char) : Bool := (c.toNat < 32 && c ≠ '\t') || c.toNat = 127

/-- The characters of a key without quotes. -/
def isBareChar (c : Char) : Bool := c.isAlphanum || c = '-' || c = '_'

/-- A text without the blanks at its start. -/
def skipSpacing (cs : List Char) : List Char := cs.dropWhile isSpacing

/-- A text without the blanks and ends of lines at its start. -/
def skipBlank (cs : List Char) : List Char := cs.dropWhile fun c => isSpacing c || c = '\n'

/-- The text after a character. -/
def expect (x : Char) (cs : List Char) : Except Fault (List Char) :=
  match cs with
  | c :: rest => if c = x then .ok rest else .error .malformed
  | [] => .error .malformed

/-- The text after a comment, if there is one. -/
def skipComment (cs : List Char) : Except Fault (List Char) :=
  match cs with
  | '#' :: rest =>
    let comment := rest.takeWhile (· ≠ '\n')
    if comment.any isControl then .error .malformed else .ok (rest.drop comment.length)
  | _ => .ok cs

/-- The text after blanks, ends of lines and comments. -/
def skipGap : Nat → List Char → Except Fault (List Char)
  | 0, cs => .ok cs
  | bound + 1, cs => do
    let after ← skipComment (skipBlank cs)
    if after.length = cs.length then return cs
    skipGap bound after

/-! ### Texts -/

/-- The character that an escape of one letter stands for. -/
def escaped? (c : Char) : Option Char :=
  [('b', '\x08'), ('t', '\t'), ('n', '\n'), ('f', '\x0c'), ('r', '\r'), ('"', '"'),
   ('\\', '\\')].lookup c

/-- The character of a code point written in hexadecimal digits. -/
def codePoint (width : Nat) (cs : List Char) : Except Fault (Char × List Char) :=
  let ds := cs.take width
  let n := Text.hexNumber? ds
  match n with
  | some n =>
    if h : ds.length = width ∧ n.isValidChar then .ok (Char.ofNatAux n h.2, cs.drop width)
    else .error .malformed
  | none => .error .malformed

/-- What an escape in a text stands for, after its backslash.  In a text of several lines an end
of line with the blanks around it may be left out. -/
def escape (multiline : Bool) (cs : List Char) : Except Fault (List Char × List Char) :=
  match cs with
  | [] => .error .malformed
  | c :: rest =>
    if multiline && (isSpacing c || c = '\n') then
      match skipSpacing cs with
      | '\n' :: more => .ok ([], skipBlank more)
      | [] => .ok ([], [])
      | _ => .error .malformed
    else if c = 'u' then (codePoint 4 rest).map fun r => (Text.spellingOf [r.1], r.2)
    else if c = 'U' then (codePoint 8 rest).map fun r => (Text.spellingOf [r.1], r.2)
    else match escaped? c with
      | some x => .ok ([x], rest)
      | none => .error .malformed

/-- Whether a text begins with a character three times. -/
def isTripled (x : Char) (cs : List Char) : Bool := [x, x, x].isPrefixOf cs

/-- The text with escapes up to its closing quotes. -/
def basicText (multiline : Bool) : Nat → List Char → Except Fault (List Char × List Char)
  | 0, _ => .error .malformed
  | _, [] => .error .malformed
  | bound + 1, c :: rest =>
    let goOn (start : List Char) (cs : List Char) : Except Fault (List Char × List Char) := do
      let (more, after) ← basicText multiline bound cs
      return (start ++ more, after)
    if c = '"' && !multiline then .ok ([], rest)
    else if c = '"' && isTripled '"' (c :: rest) then .ok ([], rest.drop 2)
    else if c = '\\' then do
      let (cs, after) ← escape multiline rest
      goOn cs after
    else if isControl c && !(multiline && c = '\n') then .error .malformed
    else goOn [c] rest

/-- The text without escapes up to its closing quotes. -/
def literalText (multiline : Bool) : List Char → Except Fault (List Char × List Char)
  | [] => .error .malformed
  | c :: rest =>
    if c = '\x27' && !multiline then .ok ([], rest)
    else if c = '\x27' && isTripled '\x27' (c :: rest) then .ok ([], rest.drop 2)
    else if isControl c && !(multiline && c = '\n') then .error .malformed
    else do
      let (more, after) ← literalText multiline rest
      return (c :: more, after)

/-- A text of several lines takes up to two more quotes from behind its closing ones. -/
def withLateQuotes (x : Char) (r : List Char × List Char) : List Char × List Char :=
  let late := (r.2.take 2).takeWhile (· = x)
  (r.1 ++ late, r.2.drop late.length)

/-- The text after the quotes that open a text of several lines, and the end of line behind them. -/
def afterOpening (cs : List Char) : List Char :=
  match cs.drop 3 with
  | '\n' :: rest => rest
  | rest => rest

/-- The text in quotes at the head of a text. -/
def quotedAt (cs : List Char) : Except Fault (String × List Char) := do
  let bound := cs.length + 1
  let (text, rest) ←
    if isTripled '"' cs then
      (basicText true bound (afterOpening cs)).map (withLateQuotes '"')
    else if isTripled '\x27' cs then
      (literalText true (afterOpening cs)).map (withLateQuotes '\x27')
    else if cs.head? = some '"' then basicText false bound (cs.drop 1)
    else literalText false (cs.drop 1)
  return (String.ofList text, rest)

/-! ### Keys -/

/-- One part of a key. -/
def keyPartAt (cs : List Char) : Except Fault (String × List Char) :=
  match cs with
  | '"' :: rest => do
    let (text, rest) ← basicText false (cs.length + 1) rest
    return (String.ofList text, rest)
  | '\x27' :: rest => do
    let (text, rest) ← literalText false rest
    return (String.ofList text, rest)
  | _ =>
    let part := cs.takeWhile isBareChar
    if part.isEmpty then .error .malformed
    else .ok (String.ofList part, cs.drop part.length)

/-- A key: parts with points between them. -/
def keyAt : Nat → List Char → Except Fault (List String × List Char)
  | 0, _ => .error .malformed
  | bound + 1, cs => do
    let (part, rest) ← keyPartAt cs
    match skipSpacing rest with
    | '.' :: more => do
      let (parts, rest) ← keyAt bound (skipSpacing more)
      return (part :: parts, rest)
    | rest => return ([part], rest)

/-! ### Numbers -/

/-- Digits at the head of a text without the single underscores between them, and the text after
them. -/
def digitsAt (p : Char → Bool) : List Char → List Char × List Char
  | [] => ([], [])
  | c :: '_' :: d :: rest =>
    if p c && p d then
      let r := digitsAt p (d :: rest)
      (c :: r.1, r.2)
    else if p c then ([c], '_' :: d :: rest)
    else ([], c :: '_' :: d :: rest)
  | c :: rest =>
    if p c then
      let r := digitsAt p rest
      (c :: r.1, r.2)
    else ([], c :: rest)

/-- The value of a digit in a base. -/
def digitIn? (base : Nat) (c : Char) : Option Nat :=
  (Text.hexValue? c).filter (· < base)

/-- The bases of numbers that begin with a zero and a letter. -/
def baseOf? (c : Char) : Option Nat :=
  [('x', 16), ('o', 8), ('b', 2)].lookup c

/-- A number in a base that its first two characters name. -/
def basedAt? (cs : List Char) : Option (Nat × List Char) :=
  match cs with
  | '0' :: letter :: rest => do
    let base ← baseOf? letter
    let (ds, rest) := digitsAt (fun c => (digitIn? base c).isSome) rest
    if ds.isEmpty then none
    return (ds.foldl (fun n d => n * base + (digitIn? base d).getD 0) 0, rest)
  | _ => none

/-- The sign at the head of a text. -/
def signAt (cs : List Char) : Bool × List Char :=
  match cs with
  | '-' :: rest => (true, rest)
  | '+' :: rest => (false, rest)
  | _ => (false, cs)

/-- The digits before the point. -/
def wholeAt (cs : List Char) : List Char × List Char :=
  match cs with
  | '0' :: rest => (['0'], rest)
  | _ => digitsAt Char.isDigit cs

/-- The digits after a point, if there are some. -/
def decimalsAt (cs : List Char) : Option (List Char × List Char) :=
  match cs with
  | '.' :: rest =>
    let r := digitsAt Char.isDigit rest
    if r.1.isEmpty then none else some r
  | _ => none

/-- A power of ten, if there is one. -/
def powerAt (cs : List Char) : Option ((Bool × List Char) × List Char) :=
  match cs with
  | e :: rest =>
    let (negative, rest) := signAt rest
    let r := digitsAt Char.isDigit rest
    if (e ≠ 'e' && e ≠ 'E') || r.1.isEmpty then none else some ((negative, r.1), r.2)
  | [] => none

/-- A number at the head of a text. -/
def numberAt (cs : List Char) : Except Fault (Value × List Char) :=
  match basedAt? cs with
  | some (n, rest) => .ok (.int n, rest)
  | none =>
    let (negative, body) := signAt cs
    let (whole, rest) := wholeAt body
    if whole.isEmpty then .error .malformed
    else
      let (decimals, rest) := match decimalsAt rest with
        | some (ds, rest) => (some ds, rest)
        | none => (none, rest)
      let (power, rest) := match powerAt rest with
        | some (p, rest) => (some p, rest)
        | none => (none, rest)
      let parts : Json.NumberParts := ⟨negative, whole, decimals, power⟩
      match parts.value with
      | .ok v => .ok (v, rest)
      | .error (.numeral f) => .error (.tooLong f)
      | .error _ => .error .malformed

/-- The words that are values. -/
def words : List (List Char × Value) :=
  [("true".toList, .bool true), ("false".toList, .bool false),
   ("inf".toList, .float (.infinity false)), ("+inf".toList, .float (.infinity false)),
   ("-inf".toList, .float (.infinity true)), ("nan".toList, .float .nan),
   ("+nan".toList, .float .nan), ("-nan".toList, .float .nan)]

/-! ### Dates and times -/

/-- A number of a count of digits between two numbers. -/
def fixedAt (width least most : Nat) (cs : List Char) : Option (Nat × List Char) :=
  let ds := cs.take width
  let n := Json.natural ds
  if ds.length = width && ds.all Char.isDigit && least ≤ n && n ≤ most then
    some (n, cs.drop width)
  else none

/-- The text after a character, if it is there. -/
def after? (x : Char) (cs : List Char) : Option (List Char) :=
  (expect x cs).toOption

/-- A time of day. -/
def clockAt? (cs : List Char) : Option (Clock × List Char) := do
  let (hour, cs) ← fixedAt 2 0 23 cs
  let (minute, cs) ← fixedAt 2 0 59 (← after? ':' cs)
  let (second, cs) ← fixedAt 2 0 59 (← after? ':' cs)
  let ds := match cs with
    | '.' :: rest => rest.takeWhile Char.isDigit
    | _ => []
  if ds.isEmpty then return (⟨hour, minute, second, 0⟩, cs)
  let kept := ds.take 6
  let millionths := Json.natural (kept ++ List.replicate (6 - kept.length) '0')
  return (⟨hour, minute, second, millionths⟩, cs.drop (ds.length + 1))

/-- A distance from universal time, if there is one. -/
def distanceAt (cs : List Char) : Option Int × List Char :=
  let signed : Option (Int × List Char) := do
    let (negative, rest) ← match cs with
      | '+' :: rest => some (false, rest)
      | '-' :: rest => some (true, rest)
      | _ => none
    let (hours, rest) ← fixedAt 2 0 23 rest
    let (minutes, rest) ← fixedAt 2 0 59 (← after? ':' rest)
    return (Binary64.signed negative (hours * 3600 + minutes * 60), rest)
  match cs, signed with
  | 'Z' :: rest, _ => (some 0, rest)
  | 'z' :: rest, _ => (some 0, rest)
  | _, some (d, rest) => (some d, rest)
  | _, none => (none, cs)

/-- The time of day after a date and what separates them, if there is one. -/
def clockAfterDate? (cs : List Char) : Option (Clock × List Char) :=
  match cs with
  | c :: rest => if c = 'T' || c = 't' || c = ' ' then clockAt? rest else none
  | [] => none

/-- A date with or without a time of day, or a time of day. -/
def momentAt? (cs : List Char) : Option (Moment × List Char) :=
  let date : Option (Date × List Char) := do
    let (year, cs) ← fixedAt 4 0 9999 cs
    let (month, cs) ← fixedAt 2 1 12 (← after? '-' cs)
    let (day, cs) ← fixedAt 2 1 31 (← after? '-' cs)
    return (⟨year, month, day⟩, cs)
  match date with
  | some (d, rest) =>
    match clockAfterDate? rest with
    | some (c, rest) =>
      let (distance, rest) := distanceAt rest
      some (.point d c distance, rest)
    | none => some (.date d, rest)
  | none => (clockAt? cs).map fun r => (.clock r.1, r.2)

/-! ### Values -/

/-- A date, a time, a number or a word. -/
def plainAt (cs : List Char) : Except Fault (Value × List Char) :=
  match momentAt? cs with
  | some (m, rest) => if m.fault?.isSome then .error .malformed else .ok (.moment m, rest)
  | none =>
    match words.find? fun w => w.1.isPrefixOf cs with
    | some (word, v) => .ok (v, cs.drop word.length)
    | none => numberAt cs

/-- The room for arrays and tables inside one another. -/
def maxDepth : Nat := 986

/-- The room that an array takes. -/
def arrayDepth : Nat := 2

/-- The room that a table in one line takes, which is read through its entries. -/
def tableDepth : Nat := 3

/-- The room that is left inside of something. -/
def within (depth room : Nat) : Except Fault Nat :=
  if room < depth then .error .tooDeep else .ok (room - depth)

mutual
/-- The value at the head of a text, in which arrays and tables take up the `room`.  The first
argument bounds the depth and the length of what is read. -/
def valueAt : Nat → Nat → List Char → Except Fault (Value × List Char)
  | 0, _, _ => .error .malformed
  | bound + 1, room, cs =>
    match cs with
    | '"' :: _ => (quotedAt cs).map fun r => (.str r.1, r.2)
    | '\x27' :: _ => (quotedAt cs).map fun r => (.str r.1, r.2)
    | '[' :: more => do
      let room ← within arrayDepth room
      let rest ← skipGap (more.length + 1) more
      if rest.head? = some ']' then return (.list [], rest.drop 1)
      let (vs, rest) ← itemsAt bound room rest
      return (.list vs, rest)
    | '\x7b' :: more => do
      let room ← within tableDepth room
      let rest := skipSpacing more
      if rest.head? = some '\x7d' then return (.map [], rest.drop 1)
      let (items, rest) ← entriesAt bound room [] rest
      return (.map (Items.toFields items), rest)
    | _ => plainAt cs

/-- The items of an array up to its closing bracket. -/
def itemsAt : Nat → Nat → List Char → Except Fault (List Value × List Char)
  | 0, _, _ => .error .malformed
  | bound + 1, room, cs => do
    let (v, rest) ← valueAt bound room cs
    let rest ← skipGap (rest.length + 1) rest
    if rest.head? = some ']' then return ([v], rest.drop 1)
    let rest ← expect ',' rest
    let rest ← skipGap (rest.length + 1) rest
    if rest.head? = some ']' then return ([v], rest.drop 1)
    let (vs, rest) ← itemsAt bound room rest
    return (v :: vs, rest)

/-- The entries of a table in one line up to its closing brace, added to those before. -/
def entriesAt : Nat → Nat → Items → List Char → Except Fault (Items × List Char)
  | 0, _, _, _ => .error .malformed
  | bound + 1, room, items, cs => do
    let (key, rest) ← keyAt (cs.length + 1) cs
    let rest ← expect '=' rest
    let (v, rest) ← valueAt bound room (skipSpacing rest)
    match items.assign 0 [] key v with
    | none => throw .malformed
    | some items =>
      let rest := skipSpacing rest
      if rest.head? = some '\x7d' then return (items, rest.drop 1)
      let rest ← expect ',' rest
      entriesAt bound room items (skipSpacing rest)
end

/-! ### Documents -/

/-- What was read of a document: its items, the key of the last declaration and the count of
declarations. -/
structure Progress where
  items : Items
  header : List String
  number : Nat

/-- The document after a change, which has to be possible. -/
def Progress.change (p : Progress) (items : Option Items) : Except Fault Progress :=
  match items with
  | some items => .ok { p with items }
  | none => .error .malformed

/-- One statement at the head of a text. -/
def statementAt (p : Progress) (cs : List Char) : Except Fault (Progress × List Char) :=
  let bound := cs.length + 1
  match cs with
  | '[' :: '[' :: rest => do
    let (key, rest) ← keyAt bound (skipSpacing rest)
    let p ← p.change (p.items.append key)
    let rest ← expect ']' (← expect ']' rest)
    return (⟨p.items, key, p.number + 1⟩, rest)
  | '[' :: rest => do
    let (key, rest) ← keyAt bound (skipSpacing rest)
    let p ← p.change (p.items.declare key)
    let rest ← expect ']' rest
    return (⟨p.items, key, p.number + 1⟩, rest)
  | _ => do
    let (key, rest) ← keyAt bound cs
    let (v, rest) ← valueAt bound maxDepth (skipSpacing (← expect '=' rest))
    let p ← p.change (p.items.assign p.number p.header key v)
    return (p, rest)

/-- The statements of a text, one a line. -/
def statements : Nat → Progress → List Char → Except Fault Progress
  | 0, p, _ => .ok p
  | bound + 1, p, cs => do
    let (p, rest) ← match skipSpacing cs with
      | [] => pure (p, [])
      | '\n' :: rest => pure (p, '\n' :: rest)
      | '#' :: rest => pure (p, '#' :: rest)
      | rest => statementAt p rest
    match ← skipComment (skipSpacing rest) with
    | [] => return p
    | '\n' :: rest => statements bound p rest
    | _ => throw .malformed

/-- The mapping that a document denotes. -/
def read (cs : List Char) : Except Fault Fields := do
  let p ← statements (cs.length + 1) ⟨[], [], 0⟩ cs
  return p.items.toFields

end ServerActions.Toml
