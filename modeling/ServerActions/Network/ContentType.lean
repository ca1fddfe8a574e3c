import ServerActions.Text.Blank
import ServerActions.Text.Case
import ServerActions.Text.Charset.Basic

/-!
# Types of contents

What the type of a content says beside the type itself: its parameters, with quotes around their
values, and perhaps in several parts or with escapes.

## Main definitions

* `fields` — the parts of a content type with their names.
* `parameters` — the parameters with their values, of which those in parts are put together.
* `charsetName?` — the name of the character set.
-/

namespace ServerActions.Network

/-! ### Parts -/

/-- The places of a text before its first semicolon that is not between quotes, and the text after
that semicolon. -/
def firstField : Bool → List Char → List Char × Option (List Char)
  | _, [] => ([], none)
  | quoted, '\\' :: '"' :: cs =>
    let (f, rest) := firstField quoted cs
    ('\\' :: '"' :: f, rest)
  | quoted, c :: cs =>
    if c = ';' && !quoted then ([], some cs)
    else
      let (f, rest) := firstField (if c = '"' then !quoted else quoted) cs
      (c :: f, rest)

/-- A content type cut at the semicolons that are not between quotes. -/
def cutFields : Nat → List Char → List (List Char)
  | 0, _ => []
  | bound + 1, cs =>
    match firstField false cs with
    | (f, some rest) => f :: cutFields bound rest
    | (f, none) => [f]

/-- A part in lower case up to its equals sign, and the value after it. -/
def nameAndValue (field : List Char) : List Char × List Char :=
  let name := field.takeWhile (· ≠ '=')
  (Text.lowerAscii (Text.trim name), Text.trim (field.drop (name.length + 1)))

/-- The parts of a content type with their names.  A part without an equals sign keeps its
capitals and has no value. -/
def fields (contentType : List Char) : List (List Char × List Char) :=
  (cutFields (contentType.length + 1) contentType).map fun f =>
    if f.contains '=' then nameAndValue f else (Text.trim f, [])

/-! ### Values -/

/-- A text in which one character stands for two that follow each other. -/
def collapsed (a b x : Char) : List Char → List Char
  | c :: d :: cs =>
    if c = a && d = b then x :: collapsed a b x cs else c :: collapsed a b x (d :: cs)
  | cs => cs

/-- A value without the quotes or the angle brackets around it. -/
def unquoted (value : List Char) : List Char :=
  let inside := (value.drop 1).dropLast
  if value.length < 2 then value
  else if value.head? = some '"' && value.getLast? = some '"' then
    collapsed '\\' '"' '"' (collapsed '\\' '\\' '\\' inside)
  else if value.head? = some '<' && value.getLast? = some '>' then inside
  else value

/-- A text with its octets in hexadecimal as characters. -/
def withOctets : List Char → List Char
  | '%' :: a :: b :: cs =>
    match Text.hexNumber? [a, b] with
    | some n => Char.ofNat n :: withOctets cs
    | none => '%' :: withOctets (a :: b :: cs)
  | c :: cs => c :: withOctets cs
  | [] => []

/-! ### Values in parts -/

/-- The name of a parameter in parts or with escapes, and the number of the part. -/
def partOf? (name : List Char) : Option (List Char × Option Nat) :=
  let start := name.takeWhile fun c => c.isAlphanum || c = '_'
  match start.isEmpty, name.drop start.length with
  | false, '*' :: rest =>
    let digits := rest.takeWhile Char.isDigit
    let ending := rest.drop digits.length
    if rest.isEmpty then some (start, none)
    else if digits.isEmpty || !(ending = [] || ending = ['*']) then none
    else (Text.decimalValue 0 digits).map fun n => (start, some n)
  | _, _ => none

/-- One part of a value: its number, its text and whether that has escapes. -/
structure ValuePart where
  number : Option Nat
  text : List Char
  isEscaped : Bool
  deriving Repr

/-- The value of a parameter: a text, or one in a character set of its own. -/
inductive ParameterValue
  | plain (text : List Char)
  | inCharset (charset text : List Char)
  deriving Repr

/-- The order of parts: by their numbers, and those with one number by their texts. -/
def ValuePart.precedes (a b : ValuePart) : Bool :=
  if a.number = b.number then decide (String.ofList a.text ≤ String.ofList b.text)
  else a.number.getD 0 ≤ b.number.getD 0

/-- The value that parts make in the order of their numbers.  With escapes in one of them the whole
begins with the name of a character set and that of a language. -/
def ParameterValue.ofParts (parts : List ValuePart) : ParameterValue :=
  let ordered := parts.mergeSort ValuePart.precedes
  let whole := ordered.flatMap fun p => if p.isEscaped then withOctets p.text else p.text
  if parts.any ValuePart.isEscaped then
    match Text.cut '\x27' whole with
    | set :: _ :: text :: more => .inCharset set (Text.joinWith '\x27' (text :: more))
    | _ => .inCharset [] whole
  else .plain whole

/-- The parameters of a content type, of which those in parts come after the others.  The first
part is no parameter but may look like one. -/
def parameters (contentType : List Char) : List (List Char × ParameterValue) :=
  match fields contentType with
  | [] => []
  | (name, value) :: rest =>
    let parted := rest.filterMap fun f => (partOf? f.1).map fun p =>
      (p.1, (⟨p.2, unquoted f.2, f.1.getLast? = some '*'⟩ : ValuePart))
    let names := (parted.map Prod.fst).eraseDups
    ((name, .plain (unquoted value))
      :: (rest.filter fun f => (partOf? f.1).isNone).map fun f => (f.1, .plain (unquoted f.2)))
      ++ names.map fun n =>
        (n, .ofParts ((parted.filter fun p => p.1 = n).map Prod.snd))

/-! ### The character set -/

/-- The text of a value.  In a character set that does not serve it is left as it is. -/
def ParameterValue.text : ParameterValue → List Char
  | .plain text => text
  | .inCharset set text =>
    let set := if set.isEmpty then "us-ascii" else String.ofList set
    let octets := text.map fun c => UInt8.ofNat c.toNat
    let decoded := (Text.Charset.ofName? set).bind fun k => (k.decode octets).toOption
    match decoded with
    | some cs => if cs.contains Text.Charset.replacement then text else cs
    | none => text

/-- The name of the character set of a content, if it is one in ASCII. -/
def charsetName? (contentType : String) : Option String :=
  let isCharset (p : List Char × ParameterValue) : Bool :=
    Text.lowerAscii p.1 = "charset".toList
  (((parameters contentType.toList).find? isCharset).map fun p => p.2.text).bind fun name =>
    if name.all fun c => c.toNat < 128 then some (String.ofList (Text.lowerAscii name)) else none

end ServerActions.Network
