import FormulaAudit.Text.Quoted

/-!
Dates, times of day and moments, with the texts in which reports and cells show them. A field that
lies outside the calendar or the clock is a fault; of several faults the one of the longest unit
counts.
-/

set_option autoImplicit false

namespace FormulaAudit

/-- Why a text shows no date and no time of day. -/
inductive TimeFault where
  | malformed
  | year (n : Nat)
  | month
  | day
  | hour
  | minute
  | second
  /-- The distance from universal time, in microseconds, is a day or more. -/
  | offset (microseconds : Int)
deriving DecidableEq

/-- A span of time as whole days of either sign and what is beyond them, without parts that are
zero. -/
def spanFields (microseconds : Int) : String :=
  let seconds := microseconds.fdiv 1000000
  let fields := [("days", seconds.fdiv 86400), ("seconds", seconds.fmod 86400),
    ("microseconds", microseconds.fmod 1000000)]
  ", ".intercalate ((fields.filter (·.2 ≠ 0)).map fun (name, n) ↦ name ++ "=" ++ toString n)

/-- The message about a text with the fault. -/
def TimeFault.message (text : String) : TimeFault → String
  | malformed => "Invalid isoformat string: " ++ Text.quoted text
  | year n => "year " ++ toString n ++ " is out of range"
  | month => "month must be in 1..12"
  | day => "day is out of range for month"
  | hour => "hour must be in 0..23"
  | minute => "minute must be in 0..59"
  | second => "second must be in 0..59"
  | offset microseconds =>
    "offset must be a timedelta strictly between -timedelta(hours=24) and timedelta(hours=24), "
      ++ "not datetime.timedelta(" ++ spanFields microseconds ++ ")."

/-- The number in decimal, with zeros in front up to a width. -/
def zeroPadded (width number : Nat) : String :=
  let digits := Nat.toDigits 10 number
  String.ofList (List.replicate (width - digits.length) '0' ++ digits)

structure Date where
  year : Nat
  month : Nat
  day : Nat
deriving DecidableEq

namespace Date

def isLeapYear (year : Nat) : Bool := year % 4 == 0 && (year % 100 != 0 || year % 400 == 0)

def daysInMonth (year month : Nat) : Nat :=
  if month = 2 then if isLeapYear year then 29 else 28
  else if month ∈ [4, 6, 9, 11] then 30 else 31

/-- What keeps the date out of the calendar, whose years have at most four digits. -/
def fault? (d : Date) : Option TimeFault :=
  if d.year < 1 ∨ 9999 < d.year then some (.year d.year)
  else if d.month < 1 ∨ 12 < d.month then some .month
  else if d.day < 1 ∨ daysInMonth d.year d.month < d.day then some .day
  else none

def isValid (d : Date) : Bool := d.fault?.isNone

def toText (d : Date) : String :=
  zeroPadded 4 d.year ++ "-" ++ zeroPadded 2 d.month ++ "-" ++ zeroPadded 2 d.day

end Date

/-- A time of day, perhaps with its distance from universal time in microseconds. -/
structure Clock where
  hour : Nat := 0
  minute : Nat := 0
  second : Nat := 0
  microsecond : Nat := 0
  offset : Option Int := none
deriving DecidableEq

namespace Clock

/-- What keeps the distance from universal time below a day. -/
def offsetFault? (c : Clock) : Option TimeFault :=
  c.offset.bind fun o ↦ if o.natAbs < 86400000000 then none else some (.offset o)

/-- What keeps the hour, minute and second off the clock. -/
def fault? (c : Clock) : Option TimeFault :=
  if 24 ≤ c.hour then some .hour
  else if 60 ≤ c.minute then some .minute
  else if 60 ≤ c.second then some .second
  else none

def isValid (c : Clock) : Bool := c.fault?.isNone

/-- Hours, minutes and seconds. -/
def toSecondsText (c : Clock) : String :=
  zeroPadded 2 c.hour ++ ":" ++ zeroPadded 2 c.minute ++ ":" ++ zeroPadded 2 c.second

/-- Microseconds behind a point, if there are some. -/
def fractionText (microseconds : Nat) : String :=
  if microseconds = 0 then "" else "." ++ zeroPadded 6 microseconds

/-- Hours and minutes, with seconds and microseconds only as far as there are some. -/
def offsetText (offset : Int) : String :=
  let microseconds := offset.natAbs % 1000000
  let size := offset.natAbs / 1000000
  let seconds :=
    if size % 60 = 0 ∧ microseconds = 0 then "" else ":" ++ zeroPadded 2 (size % 60)
  (if offset < 0 then "-" else "+") ++ zeroPadded 2 (size / 3600) ++ ":"
    ++ zeroPadded 2 (size / 60 % 60) ++ seconds ++ fractionText microseconds

/-- The time of day, with microseconds only if there are some. -/
def toText (c : Clock) : String :=
  c.toSecondsText ++ fractionText c.microsecond ++ (c.offset.map offsetText).getD ""

end Clock

structure Moment where
  date : Date
  clock : Clock := {}
deriving DecidableEq

namespace Moment

def toText (m : Moment) : String := m.date.toText ++ "T" ++ m.clock.toText

/-- The date and the time to the second, as in a heading. The year has no zeros in front. -/
def toHeading (m : Moment) : String :=
  toString m.date.year ++ "-" ++ zeroPadded 2 m.date.month ++ "-" ++ zeroPadded 2 m.date.day
    ++ " " ++ m.clock.toSecondsText

end Moment

end FormulaAudit
