import ServerActions.Json.Reader
import ServerActions.Text.Split

/-!
# Tags of YAML scalars

The kinds of values, and the kind that the look of a plain text implies.

## Main definitions

* `Tag`, `Tag.ofText` — the kinds of values, and their names.
* `Tag.implied` — the kind of a plain text.
* `MomentParts`, `momentParts?` — the numbers of a text that looks like a date.
-/

namespace ServerActions.Yaml

/-- The kinds of values. -/
inductive Tag
  | null
  | bool
  | int
  | float
  | moment
  | str
  | octets
  | list
  | map
  | set
  /-- A list of mappings with one entry each. -/
  | pairs
  /-- The key whose value is a mapping to be merged into the one it stands in. -/
  | merge
  /-- The equals sign, which is a text as a key and nothing elsewhere. -/
  | equals
  | other
  deriving DecidableEq, Repr, Inhabited

/-- The start of the names of the common kinds. -/
def tagSpace : String := "tag:yaml.org,2002:"

/-- The kinds with their names. -/
def Tag.names : List (String × Tag) :=
  [("null", .null), ("bool", .bool), ("int", .int), ("float", .float), ("timestamp", .moment),
   ("str", .str), ("binary", .octets), ("seq", .list), ("map", .map), ("set", .set),
   ("omap", .pairs), ("pairs", .pairs), ("merge", .merge), ("value", .equals)]

/-- The kind of a name. -/
def Tag.ofText (s : String) : Tag :=
  ((Tag.names.find? fun n => tagSpace ++ n.1 == s).map Prod.snd).getD .other

/-! ### Numbers -/

/-- A text without its sign. -/
def unsigned (cs : List Char) : List Char :=
  match cs with
  | '+' :: rest => rest
  | '-' :: rest => rest
  | _ => cs

/-- One or more characters of a kind or underscores. -/
def isRun (p : Char → Bool) (cs : List Char) : Bool :=
  !cs.isEmpty && cs.all fun c => p c || c = '_'

/-- A digit and then digits or underscores. -/
def isGrouped (cs : List Char) : Bool :=
  match cs with
  | c :: rest => c.isDigit && rest.all fun c => c.isDigit || c = '_'
  | [] => false

/-- The digits of a number below sixty. -/
def isSixtieth (cs : List Char) : Bool :=
  match cs with
  | [a] => a.isDigit
  | [a, b] => '0' ≤ a && a ≤ '5' && b.isDigit
  | _ => false

/-- Digits and then one or more numbers below sixty, with colons between them. -/
def isSexagesimal (cs : List Char) : Bool :=
  match Text.cut ':' cs with
  | first :: second :: more => isGrouped first && (second :: more).all isSixtieth
  | _ => false

/-- The look of an integer. -/
def looksInt (cs : List Char) : Bool :=
  match unsigned cs with
  | '0' :: 'b' :: rest => isRun (fun c => c = '0' || c = '1') rest
  | '0' :: 'x' :: rest => isRun (fun c => (Text.hexValue? c).isSome) rest
  | ['0'] => true
  | '0' :: rest => isRun (fun c => '0' ≤ c && c ≤ '7') rest
  | body => isGrouped body || isSexagesimal body

/-- A power of ten, whose sign is written. -/
def isPower (cs : List Char) : Bool :=
  match cs with
  | [] => true
  | e :: sign :: d :: ds =>
    (e = 'e' || e = 'E') && (sign = '+' || sign = '-') && (d :: ds).all Char.isDigit
  | _ => false

/-- Digits and underscores, and perhaps a power of ten. -/
def isFraction (cs : List Char) : Bool :=
  isPower (cs.dropWhile fun c => c.isDigit || c = '_')

/-- The look of a number with a point. -/
def looksFloat (cs : List Char) : Bool :=
  let body := unsigned cs
  [".inf", ".Inf", ".INF"].any (·.toList == body)
    || [".nan", ".NaN", ".NAN"].any (·.toList == cs)
    || match cs with
      | '.' :: d :: rest => d.isDigit && isFraction rest
      | _ =>
        let whole := body.takeWhile (· ≠ '.')
        match body.drop whole.length with
        | _ :: rest =>
          (isGrouped whole && isFraction rest)
            || (isSexagesimal whole && rest.all fun c => c.isDigit || c = '_')
        | [] => false

/-! ### Dates and times -/

/-- The numbers of a date, of a time of day if there is one, and of its distance from universal
time if there is one. -/
structure MomentParts where
  year : List Char
  month : List Char
  day : List Char
  clock : Option (List Char × List Char × List Char)
  fraction : List Char
  /-- The sign, the hours and the minutes. -/
  distance : Option (Char × List Char × List Char)
  deriving Repr

/-- A number of some digits at the head of a text, and the text after it. -/
def digitsOf (least most : Nat) (cs : List Char) : Option (List Char × List Char) :=
  let ds := cs.takeWhile Char.isDigit
  if least ≤ ds.length && ds.length ≤ most then some (ds, cs.drop ds.length) else none

/-- The text after a character. -/
def after? (x : Char) (cs : List Char) : Option (List Char) :=
  match cs with
  | c :: rest => if c = x then some rest else none
  | [] => none

/-- A space or a tab. -/
def isSpacing (c : Char) : Bool := c = ' ' || c = '\t'

/-- The distance from universal time at the end of a text. -/
def distanceOf? (cs : List Char) : Option (Option (Char × List Char × List Char)) :=
  match cs.dropWhile isSpacing with
  | [] => if cs.isEmpty then some none else none
  | ['Z'] => some (some ('+', ['0'], ['0']))
  | sign :: rest => do
    if sign ≠ '+' && sign ≠ '-' then none
    let (hours, rest) ← digitsOf 1 2 rest
    if rest.isEmpty then return some (sign, hours, ['0'])
    let (minutes, rest) ← digitsOf 2 2 (← after? ':' rest)
    if rest.isEmpty then return some (sign, hours, minutes) else none

/-- What stands between a date and a time of day. -/
def afterDate? (cs : List Char) : Option (List Char) :=
  match cs with
  | c :: rest =>
    if c = 'T' || c = 't' then some rest
    else if isSpacing c then some (rest.dropWhile isSpacing)
    else none
  | [] => none

/-- The numbers of a text that looks like a date with or without a time of day. -/
def momentParts? (cs : List Char) : Option MomentParts := do
  let (year, rest) ← digitsOf 4 4 cs
  let (month, rest) ← digitsOf 1 2 (← after? '-' rest)
  let (day, rest) ← digitsOf 1 2 (← after? '-' rest)
  if rest.isEmpty then return ⟨year, month, day, none, [], none⟩
  let (hour, rest) ← digitsOf 1 2 (← afterDate? rest)
  let (minute, rest) ← digitsOf 2 2 (← after? ':' rest)
  let (second, rest) ← digitsOf 2 2 (← after? ':' rest)
  let (fraction, rest) := match rest with
    | '.' :: more => (more.takeWhile Char.isDigit, more.dropWhile Char.isDigit)
    | _ => ([], rest)
  return ⟨year, month, day, some (hour, minute, second), fraction, ← distanceOf? rest⟩

/-- The look of a date.  Without a time of day the month and the day have two digits each. -/
def looksMoment (cs : List Char) : Bool :=
  match momentParts? cs with
  | some p => p.clock.isSome || (p.month.length = 2 && p.day.length = 2)
  | none => false

/-! ### The kind of a plain text -/

/-- The words that are truth values, in lower case. -/
def truthWords : List (String × Bool) :=
  [("yes", true), ("no", false), ("true", true), ("false", false), ("on", true), ("off", false)]

/-- A word in lower case, with a capital, or in capitals. -/
def spellings (word : String) : List String :=
  [word, word.capitalize, word.map Char.toUpper]

/-- The look of a truth value. -/
def looksBool (cs : List Char) : Bool :=
  truthWords.any fun w => (spellings w.1).any (·.toList == cs)

/-- The look of nothing. -/
def looksNull (cs : List Char) : Bool :=
  ["~", "null", "Null", "NULL"].any (·.toList == cs)

/-- A text without the line feed at its end. -/
def withoutLineFeed (cs : List Char) : List Char :=
  if cs.getLast? = some '\n' then cs.dropLast else cs

/-- The kind that the look of a plain text implies. -/
def Tag.implied (text : List Char) : Tag :=
  let cs := withoutLineFeed text
  if text.isEmpty || looksNull cs then .null
  else if looksBool cs then .bool
  else if looksFloat cs then .float
  else if looksInt cs then .int
  else if looksMoment cs then .moment
  else if cs = ['<', '<'] then .merge
  else if cs = ['='] then .equals
  else if cs = ['!'] || cs = ['&'] || cs = ['*'] then .other
  else .str

end ServerActions.Yaml
