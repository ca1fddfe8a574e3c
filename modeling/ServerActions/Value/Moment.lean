/-!
# Moments

Dates and times of day, with or without a distance from universal time, and how they are written.

## Main definitions

* `Date`, `Clock`, `Moment` — a day, a time of day, and the three kinds of moments.
* `Moment.fault?` — what makes the parts of a moment impossible.
* `Moment.instant?` — the instant of a moment whose distance from universal time is known.
* `Moment.text` — a moment on its own.
* `Moment.detailed` — a moment inside a list or a mapping.
-/

namespace ServerActions

/-- A day of the calendar. -/
structure Date where
  year : Nat
  month : Nat
  day : Nat
  deriving DecidableEq, Repr, Inhabited

/-- A time of day. -/
structure Clock where
  hour : Nat
  minute : Nat
  second : Nat
  microsecond : Nat
  deriving DecidableEq, Repr, Inhabited

/-- A moment.  The distance of a point from universal time is in seconds. -/
inductive Moment
  | date (d : Date)
  | clock (c : Clock)
  | point (d : Date) (c : Clock) (distance : Option Int)
  deriving DecidableEq, Repr, Inhabited

/-! ### Possible moments -/

/-- Whether a year has a leap day. -/
def isLeap (year : Nat) : Bool :=
  year % 4 = 0 && (year % 100 ≠ 0 || year % 400 = 0)

/-- The days of a month. -/
def daysIn (year month : Nat) : Nat :=
  if month = 2 then (if isLeap year then 29 else 28)
  else if month = 4 ∨ month = 6 ∨ month = 9 ∨ month = 11 then 30
  else 31

/-- The seconds of a day. -/
def daySeconds : Nat := 86400

/-- The part that makes a moment impossible. -/
inductive MomentFault
  | year (n : Nat)
  | month
  | day
  | hour
  | minute
  | second
  | distance (seconds : Int)
  deriving DecidableEq, Repr

/-- What is wrong with a date. -/
def Date.fault? (d : Date) : Option MomentFault :=
  if d.year < 1 ∨ 9999 < d.year then some (.year d.year)
  else if d.month < 1 ∨ 12 < d.month then some .month
  else if d.day < 1 ∨ daysIn d.year d.month < d.day then some .day
  else none

/-- What is wrong with a time of day. -/
def Clock.fault? (c : Clock) : Option MomentFault :=
  if 23 < c.hour then some .hour
  else if 59 < c.minute then some .minute
  else if 59 < c.second then some .second
  else none

/-- What is wrong with a distance from universal time. -/
def distanceFault? (seconds : Int) : Option MomentFault :=
  if daySeconds ≤ seconds.natAbs then some (.distance seconds) else none

/-- What is wrong with a moment: its distance is judged first, then the date, then the clock. -/
def Moment.fault? : Moment → Option MomentFault
  | .date d => d.fault?
  | .clock c => c.fault?
  | .point d c distance =>
    (distance.bind distanceFault?).or (d.fault?.or c.fault?)

/-! ### Instants -/

/-- The days from the beginning of the calendar to a date. -/
def Date.count (d : Date) : Nat :=
  let years := d.year - 1
  let months := (List.range (d.month - 1)).foldl (fun n m => n + daysIn d.year (m + 1)) 0
  years * 365 + years / 4 - years / 100 + years / 400 + months + d.day

/-- The instant of a moment whose distance from universal time is known, in millionths of a
second. -/
def Moment.instant? : Moment → Option Int
  | .point d c (some distance) =>
    let seconds : Nat := d.count * daySeconds + c.hour * 3600 + c.minute * 60 + c.second
    some ((seconds - distance) * 1000000 + c.microsecond)
  | _ => none

/-! ### Writing -/

/-- A number with zeros in front until it has `width` digits. -/
def zeroPadded (width n : Nat) : String :=
  let digits := toString n
  String.ofList (List.replicate (width - digits.length) '0') ++ digits

/-- A date as it is written. -/
def Date.text (d : Date) : String :=
  zeroPadded 4 d.year ++ "-" ++ zeroPadded 2 d.month ++ "-" ++ zeroPadded 2 d.day

/-- A time of day as it is written. -/
def Clock.text (c : Clock) : String :=
  zeroPadded 2 c.hour ++ ":" ++ zeroPadded 2 c.minute ++ ":" ++ zeroPadded 2 c.second
    ++ (if c.microsecond = 0 then "" else "." ++ zeroPadded 6 c.microsecond)

/-- A distance from universal time as it is written. -/
def distanceText (seconds : Int) : String :=
  let n := seconds.natAbs
  (if seconds < 0 then "-" else "+") ++ zeroPadded 2 (n / 3600) ++ ":"
    ++ zeroPadded 2 (n / 60 % 60) ++ (if n % 60 = 0 then "" else ":" ++ zeroPadded 2 (n % 60))

/-- A moment on its own. -/
def Moment.text : Moment → String
  | .date d => d.text
  | .clock c => c.text
  | .point d c distance => d.text ++ " " ++ c.text ++ (distance.map distanceText).getD ""

/-- A span of seconds with its parts named: whole days, which may be negative, and seconds. -/
def spanDetailed (seconds : Int) : String :=
  let days := seconds.fdiv daySeconds
  let rest := seconds.fmod daySeconds
  let parts := (if days = 0 then [] else ["days=" ++ toString days])
    ++ (if rest = 0 then [] else ["seconds=" ++ toString rest])
  "datetime.timedelta(" ++ (if parts.isEmpty then "0" else ", ".intercalate parts) ++ ")"

/-- The numbers of a date. -/
def Date.parts (d : Date) : List Nat :=
  [d.year, d.month, d.day]

/-- The numbers of a time of day, of which those at the end are left out while they are zero. -/
def Clock.parts (c : Clock) : List Nat :=
  [c.hour, c.minute]
    ++ (if c.microsecond = 0 then (if c.second = 0 then [] else [c.second])
        else [c.second, c.microsecond])

/-- Numbers as a list of arguments. -/
def arguments (ns : List Nat) : List String :=
  ns.map toString

/-- A moment with its parts named. -/
def Moment.detailed : Moment → String
  | .date d => "datetime.date(" ++ ", ".intercalate (arguments d.parts) ++ ")"
  | .clock c => "datetime.time(" ++ ", ".intercalate (arguments c.parts) ++ ")"
  | .point d c distance =>
    let zone := match distance with
      | none => []
      | some 0 => ["tzinfo=datetime.timezone.utc"]
      | some s => ["tzinfo=datetime.timezone(" ++ spanDetailed s ++ ")"]
    "datetime.datetime(" ++ ", ".intercalate (arguments (d.parts ++ c.parts) ++ zone) ++ ")"

/-- The wording of what makes a moment impossible. -/
def MomentFault.message : MomentFault → String
  | .year n => "year " ++ toString n ++ " is out of range"
  | .month => "month must be in 1..12"
  | .day => "day is out of range for month"
  | .hour => "hour must be in 0..23"
  | .minute => "minute must be in 0..59"
  | .second => "second must be in 0..59"
  | .distance s =>
    "offset must be a timedelta strictly between -timedelta(hours=24) and timedelta(hours=24), not "
      ++ spanDetailed s ++ "."

end ServerActions
