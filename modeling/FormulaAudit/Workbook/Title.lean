import FormulaAudit.Number.Numeral
import FormulaAudit.Text.LetterCase

/-!
Titles of sheets. A sheet goes by the name that the workbook gives it, but no two titles may be
alike in lower case: a name that is taken gets a number, one more than the greatest that follows it
in the titles so far.
-/

set_option autoImplicit false

namespace FormulaAudit.Workbook

/-- Characters that no title may hold. -/
def forbiddenInTitle : List Char := ['\\', '*', '?', ':', '/', '[', ']']

def isTitle (name : String) : Bool := !name.toList.any forbiddenInTitle.contains

/-- What follows a name at the front of a text, letters being compared without regard to case. -/
def afterName? : (name cs : List Char) → Option (List Char)
  | [], cs => some cs
  | _ :: _, [] => none
  | n :: name, c :: cs => if (Text.caselessVariants n).contains c then afterName? name cs else none

/-- The digits that follow the occurrences of a name in a text, none for an occurrence that none
follow. Occurrences do not overlap, and take their digits and a comma behind them with them. -/
def countersAfter (name : List Char) : (fuel : Nat) → List Char → List (List Char)
  | 0, _ => []
  | _, [] => []
  | fuel + 1, c :: cs =>
    match afterName? name (c :: cs) with
    | some rest =>
      let digits := rest.takeWhile Text.isDecimalDigit
      let rest := rest.drop digits.length
      let rest := if rest.head? = some ',' then rest.tail else rest
      digits :: countersAfter name fuel rest
    | none => countersAfter name fuel cs

/-- The title of a sheet of a given name, next to those that are taken. -/
def titleBeside (taken : List String) (name : String) : String :=
  let name := if name = "" then "Sheet" else name
  let lowered := Text.lowercaseText name
  if taken.any fun title ↦ Text.lowercaseText title = lowered then
    let titles := (",".intercalate taken).toList
    match countersAfter name.toList titles.length titles with
    | [] => name
    | counters =>
      let greatest := counters.foldl
        (fun n digits ↦ max n (Numeral.digitsValue (digits.map Numeral.plainDigit))) 0
      name ++ toString (greatest + 1)
  else name

/-- The titles of sheets of given names. -/
def titlesOf (names : List String) : List String :=
  names.foldl (fun taken name ↦ taken ++ [titleBeside taken name]) []

end FormulaAudit.Workbook
