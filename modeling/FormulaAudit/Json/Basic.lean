import FormulaAudit.Number.Decimal

/-!
JSON values. The members of an object keep their order. Whole numbers are apart from numbers that
are written with a point or an exponent.
-/

set_option autoImplicit false

namespace FormulaAudit

inductive Json where
  | null
  | bool (b : Bool)
  | int (n : Int)
  | decimal (negative : Bool) (d : Decimal)
  | str (s : String)
  | arr (items : List Json)
  | obj (members : List (String × Json))

namespace Json

/-- The member of an object with a given key; the last one of several counts. -/
def field? (key : String) : Json → Option Json
  | obj members => members.reverse.lookup key
  | _ => none

/-- The text that a member holds, if it is there and holds one. -/
def textField? (key : String) (j : Json) : Option String :=
  match j.field? key with
  | some (str s) => some s
  | _ => none

/-- The items of an array that a member holds. -/
def listField? (key : String) (j : Json) : Option (List Json) :=
  match j.field? key with
  | some (arr items) => some items
  | _ => none

end Json

end FormulaAudit
