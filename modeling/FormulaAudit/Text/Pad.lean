/-!
Padding with blanks up to a width. Text that is already as wide stays as it is.
-/

set_option autoImplicit false

namespace FormulaAudit.Text

def padLeft (width : Nat) (text : String) : String :=
  String.ofList (List.replicate (width - text.length) ' ') ++ text

def padRight (width : Nat) (text : String) : String :=
  text ++ String.ofList (List.replicate (width - text.length) ' ')

end FormulaAudit.Text
