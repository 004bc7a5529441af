import DashboardSurvey.Number.Layout
import DashboardSurvey.Number.Reading
import DashboardSurvey.Text.Split

/-!
# Dates and times of day in settings

A plain scalar that looks like a date is one, and with a time of day it is a moment, whose distance
from universal time may be given.

* `Date`, `Moment` — dates and moments.
* `MomentParts`, `readMoment` — the parts that a text gives, in range or not.
* `MomentParts.date?`, `MomentParts.moment?` — the date or moment that parts are.
* `Date.text`, `Date.shown`, `Moment.text`, `Moment.shown` — the written forms.
-/

namespace DashboardSurvey

/-! ## Dates and moments -/

/-- A date. -/
structure Date where
  year : Nat
  month : Nat
  day : Nat
deriving DecidableEq, Repr

/-- A date with a time of day; `offset` is how many minutes the clock is ahead of universal time, if
that is known. -/
structure Moment where
  date : Date
  hour : Nat
  minute : Nat
  second : Nat
  micro : Nat
  offset : Option Int
deriving DecidableEq, Repr

/-- Does the year have a leap day? -/
def isLeap (year : Nat) : Bool := year % 4 == 0 && (year % 100 != 0 || year % 400 == 0)

/-- How many days a month has. -/
def daysIn (year month : Nat) : Nat :=
  if month = 2 then if isLeap year then 29 else 28
  else if month = 4 ∨ month = 6 ∨ month = 9 ∨ month = 11 then 30 else 31

/-- How many days come before a date, from the start of the first year. -/
def Date.dayNumber (d : Date) : Nat :=
  let y := d.year - 1
  let months := (List.range (d.month - 1)).map fun m => daysIn d.year (m + 1)
  y * 365 + y / 4 - y / 100 + y / 400 + months.foldl Nat.add 0 + d.day

/-- The seconds of a moment on its own clock, from the start of the first year. -/
def Moment.clock (m : Moment) : Int :=
  ((m.date.dayNumber * 24 + m.hour) * 60 + m.minute) * 60 + m.second

/-! ## Written forms -/

/-- A number with zeros before it up to a width. -/
def padded (width n : Nat) : String := padZeros width (toString n)

/-- A date alone in a message. -/
def Date.text (d : Date) : String :=
  padded 4 d.year ++ "-" ++ padded 2 d.month ++ "-" ++ padded 2 d.day

/-- A date as part of a larger value in a message. -/
def Date.shown (d : Date) : String :=
  "datetime.date(" ++ ", ".intercalate (([d.year, d.month, d.day]).map toString) ++ ")"

/-- A length of time in minutes, as days and seconds. -/
def shownMinutes (minutes : Int) : String :=
  let days := minutes.fdiv 1440
  let seconds := (minutes.fmod 1440) * 60
  let parts := (if days = 0 then [] else ["days=" ++ toString days])
    ++ (if seconds = 0 then [] else ["seconds=" ++ toString seconds])
  "datetime.timedelta(" ++ (if parts.isEmpty then "0" else ", ".intercalate parts) ++ ")"

/-- A distance from universal time in a message. -/
def offsetText (minutes : Int) : String :=
  let n := minutes.natAbs
  (if minutes < 0 then "-" else "+") ++ padded 2 (n / 60) ++ ":" ++ padded 2 (n % 60)

/-- A moment alone in a message. -/
def Moment.text (m : Moment) : String :=
  m.date.text ++ " " ++ padded 2 m.hour ++ ":" ++ padded 2 m.minute ++ ":" ++ padded 2 m.second
    ++ (if m.micro = 0 then "" else "." ++ padded 6 m.micro)
    ++ (m.offset.map offsetText).getD ""

/-- A moment as part of a larger value in a message. -/
def Moment.shown (m : Moment) : String :=
  let small :=
    if m.micro ≠ 0 then [m.second, m.micro] else if m.second ≠ 0 then [m.second] else []
  let parts := ([m.date.year, m.date.month, m.date.day, m.hour, m.minute] ++ small).map toString
  let zone := match m.offset with
    | none => []
    | some 0 => ["tzinfo=datetime.timezone.utc"]
    | some n => ["tzinfo=datetime.timezone(" ++ shownMinutes n ++ ")"]
  "datetime.datetime(" ++ ", ".intercalate (parts ++ zone) ++ ")"

/-! ## Reading -/

/-- A time of day as a text gives it. -/
structure ClockParts where
  hour : Nat
  minute : Nat
  second : Nat
  micro : Nat
  offset : Option Int

/-- A date as a text gives it, perhaps with a time of day.  `full` says that month and day have two
digits each. -/
structure MomentParts where
  year : Nat
  month : Nat
  day : Nat
  full : Bool
  clock : Option ClockParts

/-- One or two digits, with how many there were, and what is left. -/
def oneOrTwo (cs : List Char) : Option (Nat × Bool × List Char) :=
  match cs with
  | a :: b :: rest =>
    if a.isDigit then
      if b.isDigit then some (digitsValue [a, b], true, rest)
      else some (digitsValue [a], false, b :: rest)
    else none
  | [a] => if a.isDigit then some (digitsValue [a], false, []) else none
  | [] => none

/-- Two digits, and what is left. -/
def twoDigits (cs : List Char) : Option (Nat × List Char) :=
  match oneOrTwo cs with
  | some (n, true, rest) => some (n, rest)
  | _ => none

/-- What is left after a character. -/
def after? (c : Char) (cs : List Char) : Option (List Char) :=
  match cs with
  | d :: rest => if c = d then some rest else none
  | [] => none

/-- Is the character a blank or a tab? -/
def isSpacing (c : Char) : Bool := c = ' ' || c = '\t'

/-- The distance from universal time at the end of a text; none if nothing is left. -/
def readOffset (cs : List Char) : Option (Option Int) :=
  if cs.isEmpty then some none
  else
    match cs.dropWhile isSpacing with
    | ['Z'] => some (some 0)
    | sign :: rest =>
      if sign = '+' ∨ sign = '-' then do
        let (hours, _, rest) ← oneOrTwo rest
        let minutes ←
          if rest.isEmpty then some 0
          else do
            let (n, rest) ← twoDigits (← after? ':' rest)
            if rest.isEmpty then some n else none
        return some (Binary64.signed (sign = '-') (hours * 60 + minutes))
      else none
    | [] => none

/-- The first six digits of a fraction of a second, in millionths. -/
def microseconds (ds : List Char) : Nat :=
  digitsValue ((ds ++ List.replicate 6 '0').take 6)

/-- A time of day up to the end of a text. -/
def readClock (cs : List Char) : Option ClockParts := do
  let (hour, _, rest) ← oneOrTwo cs
  let (minute, rest) ← twoDigits (← after? ':' rest)
  let (second, rest) ← twoDigits (← after? ':' rest)
  let (fraction, rest) := match rest with
    | '.' :: rest => (rest.takeWhile Char.isDigit, rest.dropWhile Char.isDigit)
    | rest => ([], rest)
  let offset ← readOffset rest
  return ⟨hour, minute, second, microseconds fraction, offset⟩

/-- What separates a date from a time of day: the letter `T`, or blanks. -/
def dropClockMark (cs : List Char) : Option (List Char) :=
  match cs with
  | c :: rest =>
    if c = 'T' ∨ c = 't' then some rest
    else if isSpacing c then some (rest.dropWhile isSpacing) else none
  | [] => none

/-- The date that a text gives, perhaps with a time of day. -/
def readMoment (cs : List Char) : Option MomentParts := do
  let year := cs.take 4
  if year.length ≠ 4 ∨ !year.all Char.isDigit then none
  let (month, fullMonth, rest) ← oneOrTwo (← after? '-' (cs.drop 4))
  let (day, fullDay, rest) ← oneOrTwo (← after? '-' rest)
  let clock ← if rest.isEmpty then some none else some <$> readClock (← dropClockMark rest)
  return ⟨digitsValue year, month, day, fullMonth && fullDay, clock⟩

/-- Does a plain scalar of this form count as a date?  Without a time of day, month and day need two
digits each. -/
def MomentParts.isPlain (p : MomentParts) : Bool := p.clock.isSome || p.full

/-! ## Ranges -/

/-- The date of the parts, or what is out of range. -/
def MomentParts.date? (p : MomentParts) : Except String Date :=
  if p.year = 0 then .error "year 0 is out of range"
  else if p.month = 0 ∨ 12 < p.month then .error "month must be in 1..12"
  else if p.day = 0 ∨ daysIn p.year p.month < p.day then
    .error "day is out of range for month"
  else .ok ⟨p.year, p.month, p.day⟩

/-- A distance from universal time, which must be less than a day. -/
def checkOffset (minutes : Int) : Except String Unit :=
  if minutes.natAbs < 1440 then .ok ()
  else .error ("offset must be a timedelta strictly between -timedelta(hours=24) and "
    ++ "timedelta(hours=24), not " ++ shownMinutes minutes ++ ".")

/-- The moment that a date and a time of day give, or what is out of range. -/
def MomentParts.moment? (p : MomentParts) (c : ClockParts) : Except String Moment := do
  match c.offset with
  | some n => checkOffset n
  | none => pure ()
  let date ← p.date?
  if 23 < c.hour then .error "hour must be in 0..23"
  if 59 < c.minute then .error "minute must be in 0..59"
  if 59 < c.second then .error "second must be in 0..59"
  return ⟨date, c.hour, c.minute, c.second, c.micro, c.offset⟩

end DashboardSurvey
