import ServerActions.Text.Blank
import ServerActions.Text.Lowercase
import ServerActions.Yaml.Fault
import ServerActions.Yaml.Tag

/-!
# Numbers in YAML scalars

The numbers that the texts of scalars denote.

## Main definitions

* `integer` — in base two, eight, ten, sixteen or sixty.
* `number` — with a point, or in base sixty.
* `moment` — a date or a point in time.
-/

namespace ServerActions.Yaml

open Number (Binary64)

/-- A text and whether it starts with a minus. -/
def withSign (cs : List Char) : Bool × List Char :=
  (cs.head? = some '-', unsigned cs)

/-- The value of a digit in a base up to sixteen. -/
def digitIn? (base : Nat) (c : Char) : Option Nat :=
  ((Text.decimal? c).or (Text.hexValue? c)).filter (· < base)

/-- The letter that may stand after a zero before the digits of a base. -/
def baseLetter? (base : Nat) : Option Char :=
  [(2, 'b'), (8, 'o'), (16, 'x')].lookup base

/-- The digits without the zero and the letter that name their base. -/
def withoutBase (base : Nat) (cs : List Char) : List Char :=
  match cs with
  | '0' :: c :: rest => if baseLetter? base = some c.toLower then rest else cs
  | _ => cs

/-- The number that digits denote. -/
def digitsIn? (base : Nat) (cs : List Char) : Option Nat :=
  cs.foldl (fun n c => n.bind fun n => (digitIn? base c).map (n * base + ·)) (some 0)

/-- The integer that a text denotes in a base.  Blanks around it, a sign and the name of the base
are allowed. -/
def integerIn (base : Nat) (text : List Char) : Except Fault Int :=
  let (negative, body) := withSign (Text.trim text)
  let ds := withoutBase base body
  let count := (ds.takeWhile fun c => (digitIn? base c).isSome).length
  if base = 10 && Text.maxNumeralDigits < count then .error (.tooLong (.tooLong count))
  else match digitsIn? base ds with
    | some n =>
      if ds.isEmpty then .error (.notInteger base (String.ofList text))
      else .ok (Binary64.signed negative n)
    | none => .error (.notInteger base (String.ofList text))

/-- A number in base sixty from its parts. -/
def sexagesimal (parts : List Int) : Int :=
  parts.foldl (fun n d => n * 60 + d) 0

/-- A text without underscores. -/
def withoutGaps (text : List Char) : List Char :=
  text.filter (· ≠ '_')

/-- The integer that digits denote, with the base that they begin with. -/
def unsignedInteger (body : List Char) : Except Fault Int :=
  match body with
  | [] => .error .noDigits
  | ['0'] => .ok 0
  | '0' :: 'b' :: rest => integerIn 2 rest
  | '0' :: 'x' :: rest => integerIn 16 rest
  | '0' :: _ => integerIn 8 body
  | _ =>
    if body.contains ':' then ((Text.cut ':' body).mapM (integerIn 10)).map sexagesimal
    else integerIn 10 body

/-- The integer that a text denotes. -/
def integer (text : List Char) : Except Fault Int :=
  let (negative, body) := withSign (withoutGaps text)
  (unsignedInteger body).map fun n => if negative then -n else n

/-- The words that are numbers. -/
def numberWords : List (String × Binary64) :=
  [("inf", .infinity false), ("infinity", .infinity false), ("nan", .nan)]

/-- Digits of any script as digits from zero to nine. -/
def asciiDigits (cs : List Char) : List Char :=
  cs.map fun c => match Text.decimal? c with
    | some d => Char.ofNat (48 + d)
    | none => c

/-- The digits before the point, the decimals and the power of ten of a text in lower case. -/
def decimalParts? (cs : List Char) : Option (List Char × List Char × Bool × List Char) := do
  let whole := cs.takeWhile Char.isDigit
  let rest := cs.drop whole.length
  let (decimals, rest) := match rest with
    | '.' :: more => (more.takeWhile Char.isDigit, more.dropWhile Char.isDigit)
    | _ => ([], rest)
  if whole.isEmpty && decimals.isEmpty then none
  match rest with
  | [] => return (whole, decimals, false, [])
  | 'e' :: power =>
    let (negative, ds) := withSign power
    if ds.isEmpty || !ds.all Char.isDigit then none
    return (whole, decimals, negative, ds)
  | _ => none

/-- The number that a text in base ten denotes.  Blanks around it, a sign and the words for what
is no finite number are allowed. -/
def decimal (text : List Char) : Except Fault Binary64 :=
  let (negative, body) := withSign (asciiDigits (Text.trim text))
  match numberWords.find? fun w => w.1.toList == body with
  | some (_, x) => .ok (if negative then x.neg else x)
  | none =>
    match decimalParts? body with
    | some (whole, decimals, minus, power) =>
      let power := Binary64.signed minus (Json.natural power)
      .ok (.ofDecimal negative (Json.natural (whole ++ decimals)) (power - decimals.length))
    | none => .error (.notNumber (String.ofList text))

/-- A number in base sixty from its parts, the last one first. -/
def sexagesimalSum (unit : Nat) (sum : Binary64) : List Binary64 → Binary64
  | [] => sum
  | x :: xs => sexagesimalSum (unit * 60) (sum.add (x.mul (.ofNat unit))) xs

/-- The word for the infinite number. -/
def infinityWord : List Char := ".inf".toList

/-- The word for what is no number. -/
def nanWord : List Char := ".nan".toList

/-- The number that a text denotes. -/
def number (text : List Char) : Except Fault Binary64 := do
  let cs := Text.lower (withoutGaps text)
  let (negative, body) := withSign cs
  let x ←
    if cs.isEmpty then .error .noDigits
    else if body = infinityWord then .ok (.infinity false)
    else if body = nanWord then .ok .nan
    else if body.contains ':' then do
      let parts ← (Text.cut ':' body).mapM decimal
      pure (sexagesimalSum 1 (.zero false) parts.reverse)
    else decimal body
  return if negative then x.neg else x

/-- The decimals of a second as millionths, of which those beyond the sixth place are dropped. -/
def millionths (ds : List Char) : Nat :=
  let kept := ds.take 6
  Json.natural (kept ++ List.replicate (6 - kept.length) '0')

/-- The moment that the parts of a text denote. -/
def MomentParts.toMoment (p : MomentParts) : Moment :=
  let n := Json.natural
  let d : Date := ⟨n p.year, n p.month, n p.day⟩
  match p.clock with
  | none => .date d
  | some (hour, minute, second) =>
    .point d ⟨n hour, n minute, n second, millionths p.fraction⟩
      (p.distance.map fun (sign, hours, minutes) =>
        Binary64.signed (sign = '-') (n hours * 3600 + n minutes * 60))

/-- The moment that a text denotes. -/
def moment (text : List Char) : Except Fault Moment :=
  match momentParts? (withoutLineFeed text) with
  | none => .error .notMoment
  | some p =>
    match p.toMoment.fault? with
    | some f => .error (.moment f)
    | none => .ok p.toMoment

end ServerActions.Yaml
