/-!
Line ends made alike: a carriage return, alone or with a line feed behind it, becomes one line feed,
as where a text is stored as an element of a markup document.
-/

set_option autoImplicit false

namespace FormulaAudit.Text

def withLineFeeds : List Char → List Char
  | '\r' :: '\n' :: cs => '\n' :: withLineFeeds cs
  | '\r' :: cs => '\n' :: withLineFeeds cs
  | c :: cs => c :: withLineFeeds cs
  | [] => []

end FormulaAudit.Text
