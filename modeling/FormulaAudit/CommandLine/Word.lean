import FormulaAudit.CommandLine.Flag
import FormulaAudit.Pattern.Basic
import FormulaAudit.Pattern.Search
import FormulaAudit.Text.Quoted

/-!
The words of a command line. A word is plain text, a flag perhaps with text attached, or neither.
Words that look like negative numbers or hold a space are plain even if they start with a hyphen.
-/

set_option autoImplicit false

namespace FormulaAudit.CommandLine

/-- What is wrong with a command line. -/
inductive Fault where
  | ambiguous (word : String) (candidates : List Flag)
  | missingValue (flag : Flag)
  | unwantedText (flag : Flag) (text : String)
  | unknownLevel (level : String)
  | missingFile
  | leftOver (words : List String)
deriving DecidableEq

def Fault.message : Fault → String
  | ambiguous word candidates =>
    "ambiguous option: " ++ word ++ " could match "
      ++ ", ".intercalate (candidates.map (·.longName))
  | missingValue flag => "argument " ++ flag.title ++ ": expected one argument"
  | unwantedText flag text =>
    "argument " ++ flag.title ++ ": ignored explicit argument " ++ Text.quoted text
  | unknownLevel level =>
    "argument " ++ Flag.logLevel.title ++ ": invalid choice: " ++ Text.quoted level
      ++ " (choose from " ++ ", ".intercalate (logLevelChoices.map Text.quoted) ++ ")"
  | missingFile => "the following arguments are required: file"
  | leftOver words => "unrecognized arguments: " ++ " ".intercalate words

/-- A word in front of any double hyphen. Text attached to a flag stands behind an equals sign, or
right behind the letter of the flag. -/
inductive Word where
  | plain (text : String)
  | long (flag : Flag) (attached : Option (List Char))
  | short (flag : Flag) (attached : Option (List Char))
  | unknown (text : String)

namespace Word

/-- A hyphen and a number, whole or with a point. -/
def negativeNumber : Pattern :=
  let digits := Pattern.repeated (.oneOf .digit)
  let whole (parts : List Pattern) :=
    Pattern.sequence (.start :: .literal "-" :: parts ++ [.finish])
  .either (whole [digits]) (whole [.many (.oneOf .digit), .literal ".", digits])

/-- The text behind the first equals sign, if there is one. -/
def afterEquals? (cs : List Char) : Option (List Char) :=
  match cs.dropWhile (· ≠ '=') with
  | _ :: rest => some rest
  | [] => none

/-- The text attached to a letter. -/
def attachedTo : List Char → Option (List Char)
  | [] => none
  | '=' :: text => some text
  | text => some text

/-- A word that names no flag. -/
def unnamed (text : String) : Word :=
  if negativeNumber.foundIn text || text.toList.contains ' ' then plain text else unknown text

/-- The kind of a word in front of any double hyphen. -/
def read (text : String) : Except Fault Word :=
  match text.toList with
  | '-' :: '-' :: rest =>
    let front := '-' :: '-' :: rest.takeWhile (· ≠ '=')
    match Flag.ofLongName? front, Flag.beginningWith front with
    | some flag, _ => .ok (long flag (afterEquals? rest))
    | none, [flag] => .ok (long flag (afterEquals? rest))
    | none, [] => .ok (unnamed text)
    | none, candidates => .error (.ambiguous text candidates)
  | '-' :: c :: rest =>
    match Flag.ofLetter? c with
    | some flag => .ok (short flag (attachedTo rest))
    | none => .ok (unnamed text)
  | _ => .ok (plain text)

end Word

end FormulaAudit.CommandLine
