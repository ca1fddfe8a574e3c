import ServerActions.Yaml.Scalar

/-!
# Tokens of a YAML text

The text as a list of tokens, with the starts and ends of blocks made explicit.  A key of a
mapping is known as one only when its colon is seen, so a token that may be a key is remembered
until then, and the tokens that mark the key are put before it.

## Main definitions

* `Token` — what a text is made of.
* `Scan` — a place in a text with the tokens so far, the open blocks and the tokens that may be
  keys.
* `Scan.step` — one token more.
* `tokens` — the tokens of a text, and the fault that ends them if there is one.
-/

namespace ServerActions.Yaml

/-- An instruction before a document. -/
inductive Directive
  /-- The version of the language, by its first number. -/
  | version (major : Nat)
  /-- The text that a handle of tags stands for. -/
  | handle (name text : String)
  /-- Any other. -/
  | other
  deriving DecidableEq, Repr

/-- What a text is made of. -/
inductive Token
  | directive (d : Directive)
  | documentStart
  | documentEnd
  | blockSequence
  | blockMapping
  | blockEnd
  | flowSequence
  | flowSequenceEnd
  | flowMapping
  | flowMappingEnd
  | blockEntry
  | flowEntry
  | key
  | value
  | alias (name : String)
  | anchor (name : String)
  | tag (handle : Option String) (suffix : String)
  | scalar (text : String) (plain : Bool)
  deriving DecidableEq, Repr

/-- A token that may turn out to be a key: the count of the tokens before it, whether it has to be
one, and where it starts. -/
structure PossibleKey where
  before : Nat
  required : Bool
  index : Nat
  line : Nat
  column : Nat
  deriving Repr

/-- A key in one line has at most this many characters. -/
def maxKeySize : Nat := 1024

/-- A place in a text with what was found before it. -/
structure Scan where
  cursor : Cursor
  tokens : Array Token
  /-- The columns of the open blocks, the innermost first. -/
  blocks : List Nat
  /-- What may be a key, for each open flow collection from the innermost and for the blocks. -/
  keys : List (Option PossibleKey)
  /-- Whether a key may stand here. -/
  keyAllowed : Bool
  deriving Repr

namespace Scan

/-- The start of a text.  A mark of its byte order is skipped. -/
def start (cs : List Char) : Scan :=
  let c := Cursor.start cs
  ⟨if c.here = '\uFEFF' then c.next else c, #[], [], [none], true⟩

/-- Whether a flow collection is open. -/
def inFlow (s : Scan) : Bool := 1 < s.keys.length

/-- The column from which the text of the innermost block starts. -/
def margin (s : Scan) : Nat :=
  match s.blocks with
  | [] => 0
  | column :: _ => column + 1

/-- One token more. -/
def emit (s : Scan) (t : Token) : Scan := { s with tokens := s.tokens.push t }

/-- Some characters further on. -/
def forward (s : Scan) (n : Nat) : Scan := { s with cursor := s.cursor.advance n }

/-- A key may stand here, or may not. -/
def allowKey (s : Scan) (allowed : Bool) : Scan := { s with keyAllowed := allowed }

/-! ### Possible keys -/

/-- What may be a key here is none. -/
def dropKey (s : Scan) : Except Fault Scan :=
  match s.keys with
  | some k :: rest =>
    if k.required then .error .malformed else .ok { s with keys := none :: rest }
  | _ => .ok s

/-- The next token may be a key. -/
def saveKey (s : Scan) : Except Fault Scan := do
  if !s.keyAllowed then return s
  let s ← s.dropKey
  let c := s.cursor
  let required := !s.inFlow && s.blocks.head? = some c.column
  return { s with keys := some ⟨s.tokens.size, required, c.index, c.line, c.column⟩ :: s.keys.tail }

/-- Nothing that starts on another line or too far away is a key. -/
def dropOldKeys (s : Scan) : Except Fault Scan := do
  let c := s.cursor
  let keys ← s.keys.mapM fun key => do
    match key with
    | none => return none
    | some k =>
      if k.line = c.line && c.index - k.index ≤ maxKeySize then return some k
      if k.required then throw .malformed
      return none
  return { s with keys }

/-! ### Blocks -/

/-- The blocks that start to the right of a column end. -/
def endBlocks (s : Scan) (column : Nat) : Scan :=
  if s.inFlow then s
  else
    let ended := s.blocks.takeWhile (column < ·)
    { s with
      blocks := s.blocks.drop ended.length
      tokens := s.tokens ++ (ended.map fun _ => Token.blockEnd).toArray }

/-- All blocks end. -/
def endAllBlocks (s : Scan) : Scan :=
  if s.inFlow then s
  else { s with
    blocks := []
    tokens := s.tokens ++ (s.blocks.map fun _ => Token.blockEnd).toArray }

/-- A block starts at a column, before the token of a number, unless one is open there. -/
def startBlock (s : Scan) (t : Token) (column before : Nat) : Scan :=
  if s.inFlow || column < s.margin then s
  else { s with
    blocks := column :: s.blocks
    tokens := s.tokens.insertIdxIfInBounds before t }

/-! ### The kinds of tokens -/

/-- The place after blanks, comments and the ends of lines.  After the end of a line a key may
stand in a block. -/
def skipGap : Nat → Scan → Scan
  | 0, s => s
  | bound + 1, s =>
    let c := s.cursor.skipSpaces.skipComment
    if isBreak c.here then
      skipGap bound { s with cursor := c.lineBreak.2, keyAllowed := s.keyAllowed || !s.inFlow }
    else { s with cursor := c }

/-- The number at a place. -/
def versionNumber (c : Cursor) : Except Fault (Nat × Cursor) :=
  let (ds, c) := c.span Char.isDigit
  if ds.isEmpty then .error .malformed
  else if Text.maxNumeralDigits < ds.length then .error (.tooLong (.tooLong ds.length))
  else .ok (Json.natural ds, c)

/-- Nothing but a space or the end of a line may stand here. -/
def expectEnd (c : Cursor) : Except Fault Unit :=
  if c.here = ' ' || isBreakOrEnd c.here then .ok () else .error .malformed

/-- The directive at a place. -/
def directiveAt (c : Cursor) : Except Fault (Directive × Cursor) := do
  let (word, c) ← name c.next
  expectEnd c
  if word = "YAML".toList then
    let (major, c) ← versionNumber c.skipSpaces
    if c.here ≠ '.' then throw .malformed
    let (_, c) ← versionNumber c.next
    expectEnd c
    return (.version major, ← c.finishLine)
  else if word = "TAG".toList then
    let (handle, c) ← tagHandle c.skipSpaces
    if c.here ≠ ' ' then throw .malformed
    let (text, c) ← tagSuffix c.skipSpaces
    expectEnd c
    return (.handle handle text, ← c.finishLine)
  else
    return (.other, ← (c.skip (!isBreakOrEnd ·)).finishLine)

/-- What stands at the start of a line between documents. -/
def betweenDocuments (s : Scan) (t : Token) (after : Cursor) : Except Fault Scan := do
  let s ← s.endAllBlocks.dropKey
  return ({ s with cursor := after }.allowKey false).emit t

/-- The start of a flow collection. -/
def openFlow (s : Scan) (t : Token) : Except Fault Scan := do
  let s ← s.saveKey
  return ({ s with keys := none :: s.keys }.allowKey true |>.emit t).forward 1

/-- The end of a flow collection. -/
def closeFlow (s : Scan) (t : Token) : Except Fault Scan := do
  let s ← s.dropKey
  let keys := if s.inFlow then s.keys.tail else s.keys
  return ({ s with keys }.allowKey false |>.emit t).forward 1

/-- The comma of a flow collection. -/
def flowEntry (s : Scan) : Except Fault Scan := do
  let s ← s.dropKey
  return ((s.allowKey true).emit .flowEntry).forward 1

/-- The dash of an item of a block. -/
def blockEntry (s : Scan) : Except Fault Scan := do
  if !s.inFlow && !s.keyAllowed then throw .malformed
  let s ← (s.startBlock .blockSequence s.cursor.column s.tokens.size).dropKey
  return ((s.allowKey true).emit .blockEntry).forward 1

/-- The question mark before a key. -/
def explicitKey (s : Scan) : Except Fault Scan := do
  if !s.inFlow && !s.keyAllowed then throw .malformed
  let s ← (s.startBlock .blockMapping s.cursor.column s.tokens.size).dropKey
  return ((s.allowKey (!s.inFlow)).emit .key).forward 1

/-- The colon before a value.  It shows that the possible key before it is a key. -/
def mappingValue (s : Scan) : Except Fault Scan := do
  match s.keys with
  | some k :: rest =>
    let s := { s with keys := none :: rest, tokens := s.tokens.insertIdxIfInBounds k.before .key }
    return ((s.startBlock .blockMapping k.column k.before).allowKey false |>.emit .value).forward 1
  | _ =>
    if !s.inFlow && !s.keyAllowed then throw .malformed
    let s ← (s.startBlock .blockMapping s.cursor.column s.tokens.size).dropKey
    return ((s.allowKey (!s.inFlow)).emit .value).forward 1

/-- A token that may be a key, read from the text. -/
def keyLike (s : Scan) (read : Cursor → Except Fault (Token × Cursor)) : Except Fault Scan := do
  let s ← s.saveKey
  let (t, c) ← read s.cursor
  return ({ s with cursor := c }.allowKey false).emit t

/-- A text without quotes.  A key may follow where its last line has ended. -/
def plain (s : Scan) : Except Fault Scan := do
  let s ← s.saveKey
  let (text, gap) := plainScalar s.inFlow s.margin s.cursor
  return ({ s with cursor := gap.cursor }.allowKey gap.lineEnded).emit
    (.scalar (String.ofList text) true)

/-- A block of lines. -/
def lines (s : Scan) : Except Fault Scan := do
  let s ← s.dropKey
  let (text, c) ← blockScalar s.margin s.cursor
  return ({ s with cursor := c }.allowKey true).emit (.scalar (String.ofList text) false)

/-- The token at a place where one starts. -/
def token (s : Scan) : Except Fault Scan :=
  let c := s.cursor
  let gapAfter := isGap (c.peek 1)
  let quoted := s.keyLike fun c => do
    let (text, c) ← quotedScalar c
    return (.scalar (String.ofList text) false, c)
  if c.column = 0 && c.here = '%' then do
    let (d, after) ← directiveAt c
    s.betweenDocuments (.directive d) after
  else if c.column = 0 && c.isTripled '-' then s.betweenDocuments .documentStart (c.advance 3)
  else if c.column = 0 && c.isTripled '.' then s.betweenDocuments .documentEnd (c.advance 3)
  else match c.here with
    | '[' => s.openFlow .flowSequence
    | '\x7b' => s.openFlow .flowMapping
    | ']' => s.closeFlow .flowSequenceEnd
    | '\x7d' => s.closeFlow .flowMappingEnd
    | ',' => s.flowEntry
    | '*' => s.keyLike fun c => (anchorName c).map fun r => (.alias r.1, r.2)
    | '&' => s.keyLike fun c => (anchorName c).map fun r => (.anchor r.1, r.2)
    | '!' => s.keyLike fun c => (tagText c).map fun r => (.tag r.1 r.2.1, r.2.2)
    | '\x27' => quoted
    | '"' => quoted
    | x =>
      if x = '-' && gapAfter then s.blockEntry
      else if x = '?' && (s.inFlow || gapAfter) then s.explicitKey
      else if x = ':' && (s.inFlow || gapAfter) then s.mappingValue
      else if (x = '|' || x = '>') && !s.inFlow then s.lines
      else if startsPlain s.inFlow c then s.plain
      else .error .malformed

/-- One token more, or nothing at the end of the text. -/
def step (s : Scan) : Except Fault (Option Scan × Array Token) := do
  let s := skipGap (s.cursor.rest.length + 1) s
  let s ← s.dropOldKeys
  let s := s.endBlocks s.cursor.column
  if s.cursor.rest.isEmpty then
    let s ← s.endAllBlocks.dropKey
    return (none, s.tokens)
  let s ← s.token
  return (some s, s.tokens)

/-- The tokens from a place on, and the fault that ends them if there is one. -/
def run : Nat → Scan → List Token × Option Fault
  | 0, s => (s.tokens.toList, some .malformed)
  | bound + 1, s =>
    match s.step with
    | .error f => (s.tokens.toList, some f)
    | .ok (none, ts) => (ts.toList, none)
    | .ok (some s, _) => run bound s

end Scan

/-- The tokens of a text, and the fault that ends them if there is one. -/
def tokens (cs : List Char) : List Token × Option Fault :=
  Scan.run (cs.length + 1) (Scan.start cs)

end ServerActions.Yaml
