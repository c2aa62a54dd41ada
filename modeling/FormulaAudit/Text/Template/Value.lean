import FormulaAudit.Text.Quoted

/-!
The values that templates show: the entries of a record, and the record as a whole. A value has a
plain text, a quoted text and a quoted text in ASCII; the three differ for texts only.
-/

set_option autoImplicit false

namespace FormulaAudit.Text.Template

inductive Value where
  | none
  | truth (b : Bool)
  | text (s : String)
  | texts (items : List String)
  /-- Something without a text of its own. -/
  | group
deriving DecidableEq

/-- The entries of a template, by name. -/
abbrev Entries := List (String × Value)

/-- What a directive shows: one entry, or all of them. -/
inductive Subject where
  | entry (v : Value)
  | whole (entries : Entries)

/-- The text quoted, with the characters outside ASCII escaped. -/
def quotedAscii (text : String) : String :=
  String.ofList ((quoted text).toList.flatMap fun c ↦
    if c.toNat < 128 then [c] else codeEscape c)

namespace Value

/-- The value with a given way to quote texts. -/
def quotedBy (quote : String → String) : Value → String
  | none => "None"
  | truth b => if b then "True" else "False"
  | text s => quote s
  | texts items => "[" ++ ", ".intercalate (items.map quote) ++ "]"
  | group => "<group>"

def kindName : Value → String
  | none => "NoneType"
  | truth _ => "bool"
  | text _ => "str"
  | texts _ => "list"
  | group => "_ArgumentGroup"

end Value

namespace Subject

def quotedBy (quote : String → String) : Subject → String
  | entry v => v.quotedBy quote
  | whole entries =>
    let member (name : String) (v : Value) := quote name ++ ": " ++ v.quotedBy quote
    "\x7b" ++ ", ".intercalate (entries.map fun (name, v) ↦ member name v) ++ "\x7d"

/-- The value without quotes around it. -/
def plain : Subject → String
  | entry (.text s) => s
  | subject => subject.quotedBy quoted

def kindName : Subject → String
  | entry v => v.kindName
  | whole _ => "dict"

/-- The number that the value stands for: a truth value is one or zero. -/
def number? : Subject → Option Nat
  | entry (.truth b) => some (if b then 1 else 0)
  | _ => Option.none

end Subject

end FormulaAudit.Text.Template
