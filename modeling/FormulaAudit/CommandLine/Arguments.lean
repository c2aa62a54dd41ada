import FormulaAudit.CommandLine.Word
import FormulaAudit.Text.LetterCase

/-!
The arguments of the command line: one file, and flags before or after it. Words are taken from the
left; a double hyphen ends the flags. The request for help counts as soon as it is reached, and a
fault found before it comes first.
-/

set_option autoImplicit false

namespace FormulaAudit.CommandLine

/-- The value of a flag. A double hyphen attached to a flag as its value is dropped, and the flag is
left without one; so do the early releases of the argument parser that is followed here. -/
inductive FlagValue where
  | text (s : String)
  | dropped
deriving DecidableEq

def FlagValue.ofText : String → FlagValue
  | "--" => dropped
  | s => text s

/-- Arguments as far as they have been read. -/
structure Reading where
  file : Option String := none
  /-- The last word read is the file. -/
  endsWithFile : Bool := false
  directory : Option FlagValue := none
  quiet : Bool := false
  logLevel : Option FlagValue := none
  /-- Words that have no place. -/
  leftOver : List String := []

/-- Why reading stops early. -/
inductive Stop where
  | help
  | fault (f : Fault)
deriving DecidableEq

namespace Reading

def addPlain (r : Reading) (text : String) : Reading :=
  match r.file with
  | none => { r with file := some text, endsWithFile := true }
  | some _ => { r with leftOver := r.leftOver ++ [text], endsWithFile := false }

def addLeftOver (r : Reading) (texts : List String) : Reading :=
  { r with leftOver := r.leftOver ++ texts, endsWithFile := false }

/-- Takes a flag that has no value. -/
def addFlag (r : Reading) : Flag → Except Stop Reading
  | .help => .error .help
  | .quiet => .ok { r with quiet := true, endsWithFile := false }
  | .directory | .logLevel => .ok { r with endsWithFile := false }

/-- Takes a flag with its value. The level of the log is read in upper case. -/
def addValue (r : Reading) (flag : Flag) (value : FlagValue) : Except Stop Reading :=
  match flag, value with
  | .directory, value => .ok { r with directory := some value, endsWithFile := false }
  | .logLevel, .dropped => .ok { r with logLevel := some .dropped, endsWithFile := false }
  | .logLevel, .text name =>
    let level := Text.uppercaseText name
    if level ∈ logLevelChoices then
      .ok { r with logLevel := some (.text level), endsWithFile := false }
    else .error (.fault (.unknownLevel level))
  | .help, _ | .quiet, _ => r.addFlag flag

end Reading

/-- What a bundle of letters stands for: flags without a value, then perhaps a flag that takes one,
with the value if it is attached. -/
structure Bundle where
  flags : List Flag := []
  valued : Option (Flag × Option FlagValue) := none

namespace Bundle

/-- A flag that nothing is attached to. -/
def ofFlag (flag : Flag) : Bundle :=
  if flag.takesValue then { valued := some (flag, none) } else { flags := [flag] }

def addFront (flag : Flag) (b : Bundle) : Bundle := { b with flags := flag :: b.flags }

/-- A flag with its value attached. -/
def ofValue (flag : Flag) (text : List Char) : Bundle :=
  { valued := some (flag, some (.ofText (String.ofList text))) }

/-- A letter with text attached. Text on a flag without a value names further flags by letters, and
has to do so to its end or to a flag that takes the rest as its value. -/
def ofAttached (flag : Flag) (text : List Char) : Except Fault Bundle :=
  if flag.takesValue then .ok (ofValue flag text)
  else match text with
    | [] => .error (.unwantedText flag "")
    | c :: rest =>
      match Flag.ofLetter? c, rest with
      | none, _ => .error (.unwantedText flag (String.ofList (c :: rest)))
      | some next, [] => .ok ((ofFlag next).addFront flag)
      | some next, d :: rest => (ofAttached next (d :: rest)).map (addFront flag)

/-- The bundle of a word that is a flag. -/
def ofWord? : Word → Option (Except Fault Bundle)
  | .plain _ | .unknown _ => none
  | .long flag none | .short flag none => some (.ok (ofFlag flag))
  | .long flag (some text) =>
    if flag.takesValue then some (.ok (ofValue flag text))
    else some (.error (.unwantedText flag (String.ofList text)))
  | .short flag (some text) => some (ofAttached flag text)

end Bundle

namespace Reading

/-- Takes the flags of a bundle, with the value found for the last one. -/
def addBundle (r : Reading) (b : Bundle) (value : Option FlagValue) : Except Stop Reading := do
  let r ← b.flags.foldlM addFlag r
  match b.valued, value with
  | some (flag, _), some value => r.addValue flag value
  | _, _ => .ok r

/-- Takes the words in front of a double hyphen. -/
def addWords (r : Reading) : List Word → Except Stop Reading
  | [] => .ok r
  | word :: words =>
    match word, Bundle.ofWord? word with
    | .plain text, _ => (r.addPlain text).addWords words
    | _, some (.error fault) => .error (.fault fault)
    | _, some (.ok b) =>
      match b.valued, words with
      | some (_, none), .plain text :: words => do
        (← r.addBundle b (some (.text text))).addWords words
      | some (flag, none), _ => .error (.fault (.missingValue flag))
      | some (_, value), words => do (← r.addBundle b value).addWords words
      | none, words => do (← r.addBundle b none).addWords words
    | .unknown text, none => (r.addLeftOver [text]).addWords words
    | _, none => .ok r

/-- Takes the double hyphen, if there is one, and the words after it. A double hyphen belongs to the
file that it stands next to. -/
def addRest (r : Reading) : List String → Reading
  | [] => r
  | hyphens :: texts =>
    match r.file, texts with
    | none, file :: texts => { r with file := some file }.addLeftOver texts
    | some _, texts => r.addLeftOver (if r.endsWithFile then texts else hyphens :: texts)
    | none, [] => r.addLeftOver [hyphens]

end Reading

structure Arguments where
  file : String
  directory : Option FlagValue
  quiet : Bool
  /-- The level asked for, in upper case. -/
  logLevel : Option FlagValue

/-- The arguments that some words make, or why they make none. -/
def Arguments.ofWords (words : List String) : Except Stop Arguments := do
  let front := words.takeWhile (· ≠ "--")
  let read ← (front.mapM Word.read).mapError Stop.fault
  let r ← Reading.addWords {} read
  let r := r.addRest (words.drop front.length)
  match r.file, r.leftOver with
  | none, _ => .error (.fault .missingFile)
  | some file, [] =>
    .ok { file, directory := r.directory, quiet := r.quiet, logLevel := r.logLevel }
  | some _, texts => .error (.fault (.leftOver texts))

end FormulaAudit.CommandLine
