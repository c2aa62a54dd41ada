import FormulaAudit.Time.Calendar

/-!
Reading dates, times of day and moments from the texts that show them. Dates are given by month or
by week, and dates and times with marks between their fields or without. Reading takes the fields
from the left; whether they lie in the calendar is checked afterwards, so a malformed text is
reported before a field out of range.
-/

set_option autoImplicit false

namespace FormulaAudit

/-- A number of exactly so many ASCII digits, and what follows it. -/
def takeDigits? (width : Nat) (cs : List Char) : Option (Nat × List Char) :=
  let digits := cs.take width
  if digits.length = width ∧ digits.all Char.isDigit then
    some (digits.foldl (fun n c ↦ 10 * n + (c.toNat - 48)) 0, cs.drop width)
  else none

namespace Date

/-- The days of the years before one; the year 1 is the first. -/
def daysBeforeYear (year : Nat) : Nat :=
  let past := year - 1
  365 * past + past / 4 - past / 100 + past / 400

/-- How many days after a Monday the year begins. -/
def firstWeekday (year : Nat) : Nat := daysBeforeYear year % 7

/-- A year has 53 weeks if it begins with a Thursday, or with a Wednesday and is a leap year. -/
def weeksInYear (year : Nat) : Nat :=
  if firstWeekday year = 3 ∨ (firstWeekday year = 2 ∧ isLeapYear year) then 53 else 52

def daysBeforeMonth (year month : Nat) : Nat :=
  (List.range (month - 1)).foldl (fun days m ↦ days + daysInMonth year (m + 1)) 0

/-- The date so many days after the first of a year, within that year. -/
def ofYearDay (year days : Nat) : Date :=
  let month := ((List.range 12).filter fun m ↦ daysBeforeMonth year (m + 1) ≤ days).length
  { year, month, day := days - daysBeforeMonth year month + 1 }

/-- The date of a day of a week. The first week of a year is the one that holds its first Thursday,
so days of its first and last weeks may lie in the years beside it. -/
def ofWeek (year week day : Nat) : Date :=
  let first := firstWeekday year
  let days : Int := (if first ≤ 3 then -(first : Int) else 7 - first) + 7 * (week - 1) + (day - 1)
  let length := daysBeforeYear (year + 1) - daysBeforeYear year
  if days < 0 then
    ofYearDay (year - 1) (daysBeforeYear year - daysBeforeYear (year - 1) - days.natAbs)
  else if length ≤ days.natAbs then ofYearDay (year + 1) (days.natAbs - length)
  else ofYearDay year days.natAbs

/-- The fields of a date by week. A week stands for its first day. The weeks of the year 0 lie
before the first month. -/
def weekFields? (hasMarks : Bool) (year : Nat) (cs : List Char) : Option Date := do
  let (week, cs) ← takeDigits? 2 cs
  let day ← match hasMarks, cs with
    | _, [] => some 1
    | true, '-' :: cs => (takeDigits? 1 cs).map (·.1)
    | true, _ => none
    | false, cs => (takeDigits? 1 cs).map (·.1)
  if year = 0 then
    if 1 ≤ week ∧ week ≤ 52 ∧ 1 ≤ day ∧ day ≤ 7 then some { year := 1, month := 0, day } else none
  else if 1 ≤ week ∧ week ≤ weeksInYear year ∧ 1 ≤ day ∧ day ≤ 7 then some (ofWeek year week day)
  else none

/-- The fields of a date by month or by week. What follows the day is not looked at. -/
def fields? (cs : List Char) : Option Date := do
  let (year, cs) ← takeDigits? 4 cs
  let hasMarks := cs.head? == some '-'
  match if hasMarks then cs.drop 1 else cs with
  | 'W' :: cs => weekFields? hasMarks year cs
  | cs =>
    let (month, cs) ← takeDigits? 2 cs
    let cs ← match hasMarks, cs with
      | false, cs => some cs
      | true, '-' :: cs => some cs
      | true, _ => none
    let (day, _) ← takeDigits? 2 cs
    return { year, month, day }

/-- The number of characters of a date in front of a time of day. Where a week may be followed by
its day or by a time, the digits that follow tell which it is. -/
def width (cs : List Char) : Nat :=
  if cs.length = 7 then 7
  else match cs.drop 4 with
    | '-' :: 'W' :: _ :: _ :: '-' :: _ :: c :: _ => if c.isDigit then 8 else 10
    | '-' :: 'W' :: _ :: _ :: '-' :: _ => 10
    | '-' :: 'W' :: _ => 8
    | '-' :: _ => 10
    | 'W' :: _ :: _ :: cs =>
      match (cs.takeWhile Char.isDigit).length with
      | 0 => 7
      | n + 1 => if n ≠ 0 ∧ n % 2 = 0 then 7 else 8
    | _ => 8

end Date

namespace Clock

/-- The fields of a time of day and what is left of the text. -/
structure Taken where
  clock : Clock := {}
  rest : List Char := []

/-- A fraction of a second, in digits of which those beyond the sixth are dropped. -/
def takeFraction? (clock : Clock) (cs : List Char) : Option Taken :=
  let width := min 6 cs.length
  (takeDigits? width cs).map fun (n, rest) ↦
    { clock := { clock with microsecond := n * Nat.pow 10 (6 - width) }
      rest := rest.dropWhile Char.isDigit }

/-- The text is at its end, or a NUL ends it. -/
def isEnd (cs : List Char) : Bool := cs.head?.all (· == '\x00')

/-- Fields from one unit to the next, colons between all of them or none. A single character that is
left over is not looked at. Behind the seconds, or behind a point or a comma, stands a fraction. -/
def takeFields? (set : List (Clock → Nat → Clock)) (colons : Option Bool) (clock : Clock)
    (cs : List Char) : Option Taken :=
  match set with
  | [] => takeFraction? clock cs
  | field :: set => do
    let (n, cs) ← takeDigits? 2 cs
    let clock := field clock n
    match cs with
    | [] => return { clock }
    | c :: cs =>
      let hasColons := colons.getD (c == ':')
      if cs.isEmpty ∧ c.toNat < 128 then return { clock, rest := [c] }
      else if hasColons ∧ c = ':' then takeFields? set (some true) clock cs
      else if c = '.' ∨ c = ',' then
        takeFraction? clock cs
      else if hasColons then none
      else takeFields? set (some false) clock (c :: cs)

/-- Hours, then minutes, then seconds. -/
def take? (cs : List Char) : Option Taken :=
  takeFields? [fun c hour ↦ { c with hour }, fun c minute ↦ { c with minute },
    fun c second ↦ { c with second }] none {} cs

/-- The time since midnight in microseconds; without whole seconds it does not count. -/
def asOffset (c : Clock) : Int :=
  let seconds := c.hour * 3600 + c.minute * 60 + c.second
  if seconds = 0 then 0 else seconds * 1000000 + c.microsecond

/-- The fields of a time of day, perhaps with its distance from universal time. -/
def fields? (cs : List Char) : Option Clock := do
  let front := cs.takeWhile fun c ↦ c != '+' && c != '-' && c != 'Z'
  let taken ← take? front
  match cs.drop front.length with
  | [] => if isEnd taken.rest then some taken.clock else none
  | 'Z' :: rest => if isEnd rest then some { taken.clock with offset := some 0 } else none
  | sign :: rest =>
    let distance ← take? rest
    let size := distance.clock.asOffset
    if isEnd distance.rest then
      some { taken.clock with offset := some (if sign = '-' then -size else size) }
    else none

end Clock

/-- The value, unless it has a fault. -/
def unlessFault {α : Type} (value : α) (faults : List (Option TimeFault)) : Except TimeFault α :=
  (faults.findSome? id).elim (.ok value) .error

def Date.read (text : String) : Except TimeFault Date :=
  match if text.utf8ByteSize ∈ [7, 8, 10] then Date.fields? text.toList else none with
  | none => .error .malformed
  | some date => unlessFault date [date.fault?]

/-- A time of day, perhaps behind the letter `T`. -/
def Clock.read (text : String) : Except TimeFault Clock :=
  let cs := match text.toList with
    | 'T' :: cs => cs
    | cs => cs
  match Clock.fields? cs with
  | none => .error .malformed
  | some clock => unlessFault clock [clock.offsetFault?, clock.fault?]

/-- The fields of a date, or of a date and a time of day with one character between them. -/
def Moment.fields? (cs : List Char) : Option Moment := do
  let date ← Date.fields? (cs.take (Date.width cs))
  match cs.drop (Date.width cs) with
  | [] => return { date }
  | _ :: cs => return { date, clock := ← Clock.fields? cs }

def Moment.read (text : String) : Except TimeFault Moment :=
  match Moment.fields? text.toList with
  | none => .error .malformed
  | some m => unlessFault m [m.clock.offsetFault?, m.date.fault?, m.clock.fault?]

end FormulaAudit
