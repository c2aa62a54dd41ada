import FormulaAudit.Number.Numeral
import FormulaAudit.Time.Duration
import FormulaAudit.Time.Reader

/-!
Dates, times of day and spans of time as workbooks store them. Each reader looks at the front of a
text only, and whether the fields make a date or a time is checked later.
-/

set_option autoImplicit false

namespace FormulaAudit

/-- At most three decimal places of a second, in microseconds. -/
def microsecondsOf (places : List Char) : Nat :=
  let fraction := Binary64.ofRatio false (Numeral.digitsValue places) (power 10 places.length)
  ((fraction * .ofInt 1000000).floor?.getD 0).toNat

/-- Seconds and microseconds behind a colon; without them both are zero. -/
def takeStoredSeconds : List Char → Nat × Nat
  | ':' :: cs =>
    match takeDigits? 2 cs with
    | some (second, '.' :: rest) => (second, microsecondsOf ((rest.takeWhile Char.isDigit).take 3))
    | some (second, _) => (second, 0)
    | none => (0, 0)
  | _ => (0, 0)

/-- A time of day to the minute, second or millisecond, whatever follows it. -/
def Clock.takeStored? (cs : List Char) : Option Clock := do
  let (hour, cs) ← takeDigits? 2 cs
  let ':' :: cs := cs | none
  let (minute, cs) ← takeDigits? 2 cs
  let (second, microsecond) := takeStoredSeconds cs
  return { hour, minute, second, microsecond }

/-- A year, a month and a day, and what follows them. -/
def Date.takeStored? (cs : List Char) : Option (Date × List Char) := do
  let (year, cs) ← takeDigits? 4 cs
  let '-' :: cs := cs | none
  let (month, cs) ← takeDigits? 2 cs
  let '-' :: cs := cs | none
  let (day, cs) ← takeDigits? 2 cs
  return ({ year, month, day }, cs)

/-- Digits in front of a given letter, as a number, and what follows the letter. -/
def takeCount? (mark : Char) (cs : List Char) : Option (Binary64 × List Char) :=
  let digits := cs.takeWhile Char.isDigit
  match cs.drop digits.length with
  | c :: rest =>
    if c = mark ∧ digits ≠ [] then
      some ((Decimal.mk (Numeral.digitsValue digits) 0).toBinary64 false, rest)
    else none
  | [] => none

/-- Seconds with at most three decimal places in front of the letter `S`. -/
def takeSeconds? (cs : List Char) : Option Binary64 :=
  let whole := cs.takeWhile Char.isDigit
  match cs.drop whole.length with
  | 'S' :: _ =>
    if whole = [] then none else some ((Decimal.mk (Numeral.digitsValue whole) 0).toBinary64 false)
  | '.' :: rest =>
    let places := rest.takeWhile Char.isDigit
    if whole ≠ [] ∧ places ≠ [] ∧ places.length ≤ 3
        ∧ (rest.drop places.length).head? = some 'S' then
      some ((Decimal.mk (Numeral.digitsValue (whole ++ places)) (-places.length)).toBinary64 false)
    else none
  | _ => none

/-- Hours, minutes and seconds behind the letters `PT`; at least one of them is there. -/
def Duration.takeStored? : List Char → Option (Except Duration.Fault Duration)
  | 'P' :: 'T' :: cs =>
    let hours := takeCount? 'H' cs
    let cs := (hours.map (·.2)).getD cs
    let minutes := takeCount? 'M' cs
    let cs := (minutes.map (·.2)).getD cs
    let seconds := takeSeconds? cs
    if hours.isNone ∧ minutes.isNone ∧ seconds.isNone then none
    else
      let none := Binary64.zero false
      some (ofParts ((hours.map (·.1)).getD none) ((minutes.map (·.1)).getD none)
        (seconds.getD none))
  | _ => none

end FormulaAudit
