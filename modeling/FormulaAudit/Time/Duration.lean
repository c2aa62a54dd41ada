import FormulaAudit.Number.Binary64
import FormulaAudit.Time.Calendar

/-!
Spans of time to the microsecond, of less than a thousand million days. Hours, minutes and seconds
that are binary numbers are added exactly as far as they are whole; the fraction of the seconds is
scaled to microseconds as a binary number, and what is left of it is rounded at the end, a half to
the even side.
-/

set_option autoImplicit false

namespace FormulaAudit

/-- Whole days of either sign, and the seconds and microseconds beyond them. -/
structure Duration where
  days : Int
  seconds : Nat
  microseconds : Nat
deriving DecidableEq

namespace Duration

/-- Why a span of time cannot be held. -/
inductive Fault where
  | infinite
  /-- The days do not fit into 32 bits. -/
  | uncountableDays
  | beyondRange (days : Int)
deriving DecidableEq

/-- The greatest number of days, of either sign. -/
def dayLimit : Nat := 999999999

def Fault.message : Fault → String
  | infinite => "cannot convert float infinity to integer"
  | uncountableDays => "Python int too large to convert to C int"
  | beyondRange days =>
    "days=" ++ toString days ++ "; must have magnitude <= " ++ toString dayLimit

/-- The span of so many microseconds. -/
def ofMicroseconds (total : Int) : Except Fault Duration :=
  let seconds := total.fdiv 1000000
  let days := seconds.fdiv 86400
  if days < -2147483648 ∨ 2147483647 < days then .error .uncountableDays
  else if dayLimit < days.natAbs then .error (.beyondRange days)
  else .ok {
    days
    seconds := (seconds.fmod 86400).toNat
    microseconds := (total.fmod 1000000).toNat }

/-- What a number that is not negative has beyond its floor. -/
def fraction : Binary64 → Binary64
  | .finite _ m e => .ofRatio false (m % power 2 (-e)) (power 2 (-e))
  | x => x

/-- The whole number below a part. -/
def wholePart (part : Binary64) : Except Fault Int := part.floor?.elim (.error .infinite) .ok

/-- A count and a fraction as one count: one more if the fraction is greater than a half, or if it
is a half and the count is odd. -/
def roundUp (count : Int) : Binary64 → Int
  | .finite _ m e =>
    let unit := power 2 (-e)
    if unit < 2 * m ∨ (unit = 2 * m ∧ count % 2 = 1) then count + 1 else count
  | _ => count

/-- The span of whole hours and minutes and of seconds, which may have a fraction. -/
def ofParts (hours minutes seconds : Binary64) : Except Fault Duration := do
  let scaled := fraction seconds * .ofInt 1000000
  let count := (← wholePart seconds) * 1000000 + (← wholePart scaled)
    + (← wholePart minutes) * 60000000 + (← wholePart hours) * 3600000000
  ofMicroseconds (roundUp count (fraction scaled))

def toText (d : Duration) : String :=
  let days :=
    if d.days = 0 then ""
    else toString d.days ++ (if d.days.natAbs = 1 then " day, " else " days, ")
  let fraction := if d.microseconds = 0 then "" else "." ++ zeroPadded 6 d.microseconds
  days ++ toString (d.seconds / 3600) ++ ":" ++ zeroPadded 2 (d.seconds / 60 % 60) ++ ":"
    ++ zeroPadded 2 (d.seconds % 60) ++ fraction

end Duration

end FormulaAudit
