import FormulaAudit.Text.Template.Value

/-!
The directives of templates. A directive stands behind a percent sign: perhaps the name of an entry
in parentheses, then flags, a width, a precision, a size mark without a meaning, and a letter that
says how the value is shown. A star in place of a width or a precision takes it from the value, so
that nothing is left for the letter to show.
-/

set_option autoImplicit false

namespace FormulaAudit.Text.Template

/-- What is wrong with a template for some entries. -/
inductive Fault where
  | openName
  | unknownName (name : String)
  | starWithoutNumber
  | nothingToShow
  | widthTooBig
  | precisionTooBig
  | incomplete
  | unknownLetter (letter : Char) (index : Nat)
  | notANumber (letter : Char) (kind : String)
  | notAnInteger (letter : Char) (kind : String)
  | notReal (kind : String)
  | notACharacter
deriving DecidableEq

def Fault.message : Fault → String
  | openName => "incomplete format key"
  | unknownName name => quoted name
  | starWithoutNumber => "* wants int"
  | nothingToShow => "not enough arguments for format string"
  | widthTooBig => "width too big"
  | precisionTooBig => "precision too big"
  | incomplete => "incomplete format"
  | unknownLetter letter index =>
    let shown := if 31 ≤ letter.toNat ∧ letter.toNat ≤ 126 then letter else '?'
    "unsupported format character '" ++ String.singleton shown ++ "' (0x"
      ++ String.ofList (Nat.toDigits 16 letter.toNat) ++ ") at index " ++ toString index
  | notANumber letter kind =>
    "%" ++ String.singleton letter ++ " format: a real number is required, not " ++ kind
  | notAnInteger letter kind =>
    "%" ++ String.singleton letter ++ " format: an integer is required, not " ++ kind
  | notReal kind => "must be real number, not " ++ kind
  | notACharacter => "%c requires int or char"

/-- What a directive without a name shows, and whether that was shown already. -/
structure Current where
  subject : Subject
  isUsed : Bool

/-- How a value is laid out. -/
structure Style where
  leftJustified : Bool := false
  signed : Bool := false
  spaced : Bool := false
  alternate : Bool := false
  zeroFilled : Bool := false
  width : Nat := 0
  precision : Option Nat := none

/-- A name up to its closing parenthesis, and what follows it. Parentheses inside have to match;
`depth` of them are open. -/
def takeName? (depth : Nat) : List Char → Option (List Char × List Char)
  | [] => none
  | c :: cs =>
    if c = ')' ∧ depth = 0 then some ([], cs)
    else
      let depth := if c = '(' then depth + 1 else if c = ')' then depth - 1 else depth
      (takeName? depth cs).map fun (name, rest) ↦ (c :: name, rest)

/-- The flags in front of a width. -/
def takeFlags (s : Style) : List Char → Style × List Char
  | '-' :: cs => takeFlags { s with leftJustified := true } cs
  | '+' :: cs => takeFlags { s with signed := true } cs
  | ' ' :: cs => takeFlags { s with spaced := true } cs
  | '#' :: cs => takeFlags { s with alternate := true } cs
  | '0' :: cs => takeFlags { s with zeroFilled := true } cs
  | cs => (s, cs)

/-- A width or a precision of at most `limit`, if there is one. -/
def takeSize (limit : Nat) (tooBig : Fault) (current : Current) (cs : List Char) :
    Except Fault (Option Nat × Current × List Char) :=
  match cs with
  | '*' :: rest =>
    if current.isUsed then .error .nothingToShow
    else match current.subject.number? with
      | some n => .ok (some n, { current with isUsed := true }, rest)
      | none => .error .starWithoutNumber
  | _ =>
    let digits := cs.takeWhile Char.isDigit
    let size := digits.foldl (fun n c ↦ 10 * n + (c.toNat - 48)) 0
    if digits.isEmpty then .ok (none, current, cs)
    else if limit < size then .error tooBig
    else .ok (some size, current, cs.drop digits.length)

def widthLimit : Nat := 9223372036854775807

def precisionLimit : Nat := 2147483647

/-- What a directive consists of. -/
structure Directive where
  current : Current
  style : Style
  letter : Char

/-- The entry that a directive names, or what the current one is. -/
def Directive.takeSubject (entries : Entries) (current : Current) (cs : List Char) :
    Except Fault (Current × List Char) :=
  match cs with
  | '(' :: cs =>
    match takeName? 0 cs with
    | none => .error .openName
    | some (name, rest) =>
      let name := String.ofList name
      match entries.lookup name with
      | some v => .ok (⟨.entry v, false⟩, rest)
      | none => .error (.unknownName name)
  | _ => .ok (current, cs)

/-- The precision behind a point, which is zero if no digit follows the point. -/
def Directive.takePrecision (current : Current) (cs : List Char) :
    Except Fault (Option Nat × Current × List Char) :=
  match cs with
  | '.' :: cs => do
    let (precision, current, cs) ← takeSize precisionLimit .precisionTooBig current cs
    return (some (precision.getD 0), current, cs)
  | _ => .ok (none, current, cs)

/-- A directive behind its percent sign, and what follows it. -/
def Directive.take (entries : Entries) (current : Current) (cs : List Char) :
    Except Fault (Directive × List Char) := do
  let (current, cs) ← takeSubject entries current cs
  let (style, cs) := takeFlags {} cs
  let (width, current, cs) ← takeSize widthLimit .widthTooBig current cs
  let (precision, current, cs) ← takePrecision current cs
  let cs := match cs with
    | 'h' :: rest | 'l' :: rest | 'L' :: rest => rest
    | _ => cs
  match cs with
  | [] => .error .incomplete
  | letter :: rest =>
    .ok (⟨current, { style with width := width.getD 0, precision }, letter⟩, rest)

end FormulaAudit.Text.Template
