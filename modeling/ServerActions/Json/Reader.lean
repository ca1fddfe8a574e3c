import ServerActions.Json.Quoted
import ServerActions.Text.Digit
import ServerActions.Value.Basic

/-!
# Reading JSON

JSON text as a value, with the place and the kind of the first mistake when it is none.  Beside
the standard the numbers `NaN`, `Infinity` and `-Infinity` are read.  A name that is given twice
keeps its first place and takes its last value.

## Main definitions

* `Mistake`, `Fault` — what can be wrong, and where.
* `Cursor` — the text still to be read and the count of characters before it.
* `value`, `entries`, `items` — the grammar.
* `read` — a whole text.
-/

namespace ServerActions.Json

open Number (Binary64)

/-- What can be wrong with a JSON text. -/
inductive Mistake
  | noValue
  | noName
  | noColon
  | noComma
  | openString
  | controlCharacter
  | badEscape
  | badUnicodeEscape
  | extraData
  | byteOrderMark
  deriving DecidableEq, Repr

/-- The wording of a mistake. -/
def Mistake.message : Mistake → String
  | .noValue => "Expecting value"
  | .noName => "Expecting property name enclosed in double quotes"
  | .noColon => "Expecting ':' delimiter"
  | .noComma => "Expecting ',' delimiter"
  | .openString => "Unterminated string starting at"
  | .controlCharacter => "Invalid control character at"
  | .badEscape => "Invalid \\escape"
  | .badUnicodeEscape => "Invalid \\uXXXX escape"
  | .extraData => "Extra data"
  | .byteOrderMark => "Unexpected UTF-8 BOM (decode using utf-8-sig)"

/-- What holds other values. -/
inductive Collection
  | array
  | object
  deriving DecidableEq, Repr

/-- How a collection is called. -/
def Collection.name : Collection → String
  | .array => "array"
  | .object => "object"

/-- Why a text is not read: a mistake at an offset, a numeral that is too long, or a collection
that lies too deep inside others. -/
inductive Stop
  | mistake (kind : Mistake) (offset : Nat)
  | numeral (fault : Text.NumeralFault)
  | tooDeep (c : Collection)
  deriving DecidableEq, Repr

/-- A fault of a JSON text, with the line and the column of a mistake counted from one. -/
inductive Fault
  | mistake (kind : Mistake) (line column offset : Nat)
  | numeral (fault : Text.NumeralFault)
  | tooDeep (c : Collection)
  deriving DecidableEq, Repr

/-- The wording of a fault. -/
def Fault.message : Fault → String
  | .mistake kind line column offset =>
    s!"{kind.message}: line {line} column {column} (char {offset})"
  | .numeral fault => fault.message
  | .tooDeep c =>
    s!"maximum recursion depth exceeded while decoding a JSON {c.name} from a unicode string"

/-- The place after some code points: its line and its column. -/
def place (before : List Nat) : Nat × Nat :=
  let lineFeed := '\n'.toNat
  (before.count lineFeed + 1, (before.reverse.takeWhile (· != lineFeed)).length + 1)

/-- The fault of a text whose reading stopped.  Code points are counted, however they are
spelled. -/
def Stop.fault (cs : List Char) : Stop → Fault
  | .mistake kind offset =>
    let before := Text.points (cs.take offset)
    .mistake kind (place before).1 (place before).2 before.length
  | .numeral fault => .numeral fault
  | .tooDeep c => .tooDeep c

/-- The text still to be read and the count of characters before it. -/
structure Cursor where
  rest : List Char
  offset : Nat
  deriving Repr

/-- The cursor `n` characters further on. -/
def Cursor.skip (c : Cursor) (n : Nat) : Cursor :=
  ⟨c.rest.drop n, c.offset + n⟩

/-- The blanks of JSON. -/
def isSpace (c : Char) : Bool :=
  c = ' ' || c = '\t' || c = '\n' || c = '\r'

/-- The cursor at the next character that is not blank. -/
def Cursor.skipSpaces (c : Cursor) : Cursor :=
  c.skip (c.rest.takeWhile isSpace).length

/-! ### Strings -/

/-- The number that four hexadecimal digits denote. -/
def hexUnit? (a b c d : Char) : Option Nat := do
  let a ← Text.hexValue? a
  let b ← Text.hexValue? b
  let c ← Text.hexValue? c
  let d ← Text.hexValue? d
  return ((a * 16 + b) * 16 + c) * 16 + d

/-- The character that an escape of one letter stands for. -/
def escaped? (c : Char) : Option Char :=
  match c with
  | '"' => some '"'
  | '\\' => some '\\'
  | '/' => some '/'
  | 'b' => some '\x08'
  | 'f' => some '\x0c'
  | 'n' => some '\n'
  | 'r' => some '\r'
  | 't' => some '\t'
  | _ => none

/-- The code units of a string up to its closing quote.  `start` is the offset of the opening quote
and `offset` that of the text. -/
def stringUnits (start offset : Nat) : List Char → Except Stop (List Nat × Cursor)
  | [] => .error (.mistake .openString start)
  | '"' :: rest => .ok ([], ⟨rest, offset + 1⟩)
  | '\\' :: 'u' :: a :: b :: c :: d :: rest =>
    match hexUnit? a b c d, rest.isEmpty with
    | some n, false => do
      let (ns, after) ← stringUnits start (offset + 6) rest
      return (n :: ns, after)
    | _, _ => .error (.mistake .badUnicodeEscape (offset + 1))
  | '\\' :: 'u' :: _ => .error (.mistake .badUnicodeEscape (offset + 1))
  | '\\' :: c :: rest =>
    match escaped? c with
    | some e => do
      let (ns, after) ← stringUnits start (offset + 2) rest
      return (e.toNat :: ns, after)
    | none => .error (.mistake .badEscape offset)
  | ['\\'] => .error (.mistake .openString start)
  | c :: rest =>
    if c.toNat < 32 then .error (.mistake .controlCharacter offset)
    else do
      let (ns, after) ← stringUnits start (offset + 1) rest
      return (c.toNat :: ns, after)

/-- The string at a cursor that stands after its opening quote. -/
def string (c : Cursor) : Except Stop (String × Cursor) := do
  let (units, after) ← stringUnits (c.offset - 1) c.offset c.rest
  return (String.ofList (joined units), after)

/-! ### Numbers -/

/-- The decimal digits from zero to nine at the head of a text. -/
def digits (cs : List Char) : List Char :=
  cs.takeWhile Char.isDigit

/-- The number that ASCII digits denote. -/
def natural (ds : List Char) : Nat :=
  ds.foldl (fun n d => n * 10 + (d.toNat - 48)) 0

/-- The parts of a number: its sign, the digits before the point, those after it and the power of
ten, each of the last two where it is there. -/
structure NumberParts where
  negative : Bool
  whole : List Char
  decimals : Option (List Char)
  power : Option (Bool × List Char)
  deriving Repr

/-- The decimals at the head of a text: a point and one or more digits. -/
def decimalsAt (cs : List Char) : Option (List Char) :=
  match cs with
  | '.' :: rest => if (digits rest).isEmpty then none else some (digits rest)
  | _ => none

/-- The power of ten at the head of a text with the count of its characters: a letter, a sign if
there is one and one or more digits. -/
def powerAt (cs : List Char) : Option (Bool × List Char × Nat) :=
  match cs with
  | e :: rest =>
    if e = 'e' || e = 'E' then
      let (negative, rest, width) := match rest with
        | '-' :: r => (true, r, 2)
        | '+' :: r => (false, r, 2)
        | r => (false, r, 1)
      let ds := digits rest
      if ds.isEmpty then none else some (negative, ds, width + ds.length)
    else none
  | [] => none

/-- The number at the head of a text with the count of its characters. -/
def numberAt (cs : List Char) : Option (NumberParts × Nat) :=
  let (negative, body, width) := match cs with
    | '-' :: rest => (true, rest, 1)
    | rest => (false, rest, 0)
  let whole := match body with
    | '0' :: _ => ['0']
    | _ => digits body
  if whole.isEmpty then none
  else
    let rest := body.drop whole.length
    let width := width + whole.length
    let decimals := decimalsAt rest
    let (rest, width) := match decimals with
      | some ds => (rest.drop (ds.length + 1), width + ds.length + 1)
      | none => (rest, width)
    match powerAt rest with
    | some (minus, ds, n) => some (⟨negative, whole, decimals, some (minus, ds)⟩, width + n)
    | none => some (⟨negative, whole, decimals, none⟩, width)

/-- The number nearest to the value of the parts. -/
def NumberParts.toBinary64 (p : NumberParts) : Binary64 :=
  let decimals := p.decimals.getD []
  let power : Int := match p.power with
    | some (true, ds) => -(natural ds : Int)
    | some (false, ds) => natural ds
    | none => 0
  .ofDecimal p.negative (natural (p.whole ++ decimals)) (power - decimals.length)

/-- The value of the parts: an integer unless there are decimals or a power of ten. -/
def NumberParts.value (p : NumberParts) : Except Stop Value :=
  if p.decimals.isNone && p.power.isNone then
    if Text.maxNumeralDigits < p.whole.length then .error (.numeral (.tooLong p.whole.length))
    else .ok (.int (if p.negative then -(natural p.whole : Int) else natural p.whole))
  else .ok (.float p.toBinary64)

/-! ### Values -/

/-- The words that are values. -/
def words : List (List Char × Value) :=
  [("null".toList, .null), ("true".toList, .bool true), ("false".toList, .bool false),
   ("NaN".toList, .float .nan), ("Infinity".toList, .float (.infinity false)),
   ("-Infinity".toList, .float (.infinity true))]

/-- The word at the head of a text with the count of its characters. -/
def wordAt (cs : List Char) : Option (Value × Nat) :=
  (words.find? fun w => w.1.isPrefixOf cs).map fun w => (w.2, w.1.length)

/-- The cursor after a character, or a mistake where another stands. -/
def expect (wanted : Char) (kind : Mistake) (c : Cursor) : Except Stop Cursor :=
  if c.rest.head? = some wanted then .ok (c.skip 1) else .error (.mistake kind c.offset)

/-- How many collections may lie inside one another. -/
def maxDepth : Nat := 988

mutual
/-- The value at a cursor, in which `room` collections may lie inside one another.  The first
argument bounds the depth and the length of what is read. -/
def value : Nat → Nat → Cursor → Except Stop (Value × Cursor)
  | 0, _, c => .error (.mistake .noValue c.offset)
  | bound + 1, room, c =>
    match c.rest with
    | '"' :: _ => do
      let (s, after) ← string (c.skip 1)
      return (.str s, after)
    | '\x7b' :: _ => do
      if room = 0 then throw (.tooDeep .object)
      let inner := (c.skip 1).skipSpaces
      if inner.rest.head? = some '\x7d' then return (.map [], inner.skip 1)
      let (fields, after) ← entries bound (room - 1) [] inner
      return (.map fields, after)
    | '[' :: _ => do
      if room = 0 then throw (.tooDeep .array)
      let inner := (c.skip 1).skipSpaces
      if inner.rest.head? = some ']' then return (.list [], inner.skip 1)
      let (vs, after) ← items bound (room - 1) inner
      return (.list vs, after)
    | _ =>
      match wordAt c.rest with
      | some (v, n) => .ok (v, c.skip n)
      | none =>
        match numberAt c.rest with
        | some (parts, n) => do
          let v ← parts.value
          return (v, c.skip n)
        | none => .error (.mistake .noValue c.offset)

/-- The entries of an object up to its closing brace, added to those before. -/
def entries : Nat → Nat → Fields → Cursor → Except Stop (Fields × Cursor)
  | 0, _, _, c => .error (.mistake .noName c.offset)
  | bound + 1, room, fields, c => do
    let c ← expect '"' .noName c
    let (name, c) ← string c
    let c ← expect ':' .noColon c.skipSpaces
    let (v, c) ← value bound room c.skipSpaces
    let c := c.skipSpaces
    let fields := fields.insert (.str name) v
    if c.rest.head? = some '\x7d' then return (fields, c.skip 1)
    let c ← expect ',' .noComma c
    entries bound room fields c.skipSpaces

/-- The items of an array up to its closing bracket. -/
def items : Nat → Nat → Cursor → Except Stop (List Value × Cursor)
  | 0, _, c => .error (.mistake .noValue c.offset)
  | bound + 1, room, c => do
    let (v, c) ← value bound room c
    let c := c.skipSpaces
    if c.rest.head? = some ']' then return ([v], c.skip 1)
    let c ← expect ',' .noComma c
    let (vs, c) ← items bound room c.skipSpaces
    return (v :: vs, c)
end

/-- The value of a text and nothing after it but blanks. -/
def document (cs : List Char) : Except Stop Value := do
  if cs.head? = some '\uFEFF' then throw (.mistake .byteOrderMark 0)
  let (v, after) ← value (cs.length + 1) maxDepth (Cursor.mk cs 0).skipSpaces
  let after := after.skipSpaces
  if after.rest.isEmpty then return v
  throw (.mistake .extraData after.offset)

/-- The value of a JSON text. -/
def read (cs : List Char) : Except Fault Value :=
  match document cs with
  | .ok v => .ok v
  | .error stop => .error (stop.fault cs)

end ServerActions.Json
