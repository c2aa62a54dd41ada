import FormulaAudit.Expression.Basic

/-!
The state of reading a written expression: the tokens that are left, the flags in force, and the
groups met so far. A token is a character, or a backslash with the character behind it.
-/

set_option autoImplicit false

namespace FormulaAudit.Expression

/-- Why a text writes down no expression. -/
inductive Fault where
  | malformed
  | repetitionTooLarge
  | incompatibleFlags
deriving DecidableEq

def Fault.message : Fault → String
  | malformed => "malformed expression"
  | repetitionTooLarge => "the repetition number is too large"
  | incompatibleFlags => "ASCII and UNICODE flags are incompatible"

inductive Token where
  | plain (c : Char)
  | escaped (c : Char)
deriving DecidableEq

/-- The tokens of a text, unless it ends with a backslash that has nothing behind it. -/
def tokens? : List Char → Option (List Token)
  | [] => some []
  | ['\\'] => none
  | '\\' :: c :: cs => (.escaped c :: ·) <$> tokens? cs
  | c :: cs => (.plain c :: ·) <$> tokens? cs

/-- What the letters of a flag group turn on or off. -/
inductive Flag where
  | ignoreCase
  | manyLines
  | acrossLines
  | verbose
  | ascii
  | unicode
  /-- An expression without repetitions. -/
  | template
deriving DecidableEq

def Flag.ofLetter? : Char → Option Flag
  | 'i' => some ignoreCase
  | 'm' => some manyLines
  | 's' => some acrossLines
  | 'x' => some verbose
  | 'a' => some ascii
  | 'u' => some unicode
  | 't' => some template
  | _ => none

def Flag.all : List Flag :=
  [ignoreCase, manyLines, acrossLines, verbose, ascii, unicode, template]

/-- The flag says which characters are letters. -/
def Flag.isAlphabet (f : Flag) : Bool := f = ascii || f = unicode

abbrev Flags := List Flag

/-- Flags with some more and without some others. A choice of alphabet replaces the one before. -/
def Flags.change (flags more less : Flags) : Flags :=
  let kept := if more.any Flag.isAlphabet then flags.filter (!·.isAlphabet) else flags
  (kept ++ more).filter fun f ↦ !less.contains f

def Flags.alphabet (flags : Flags) : Alphabet where
  isAscii := flags.contains .ascii
  ignoresCase := flags.contains .ignoreCase

/-- What is settled before an expression is read: the flags that are in force from the start, and
which character a name stands for. Names are known by a table from outside, and without one no name
is. -/
structure Options where
  ignoreCase : Bool := false
  manyLines : Bool := false
  acrossLines : Bool := false
  verbose : Bool := false
  ascii : Bool := false
  unicode : Bool := false
  template : Bool := false
  characterNamed : String → Option Char := fun _ ↦ none

namespace Options

def turnsOn (o : Options) : Flag → Bool
  | .ignoreCase => o.ignoreCase
  | .manyLines => o.manyLines
  | .acrossLines => o.acrossLines
  | .verbose => o.verbose
  | .ascii => o.ascii
  | .unicode => o.unicode
  | .template => o.template

def flags (o : Options) : Flags := Flag.all.filter o.turnsOn

end Options

/-- A group that has been met; its width is known once it is closed. -/
structure MetGroup where
  name : Option String
  width : Option Width := none

structure Reading where
  tokens : List Token
  /-- The flags of the whole expression. -/
  flags : Flags
  characterNamed : String → Option Char
  /-- The groups by number, the first one having the number one. -/
  groups : List MetGroup := []
  /-- How many groups had been met when the outermost open look behind began. -/
  groupsBeforeLook : Option Nat := none
  /-- Groups that a condition asks for by number. -/
  asked : List Nat := []
  hasRepetition : Bool := false
  /-- Some look behind has no fixed width. -/
  hasLooseLook : Bool := false

/-- A step of reading. -/
abbrev Read := StateT Reading (Except Fault)

namespace Read

variable {α : Type}

def malformed : Read α := throw .malformed

/-- The value, if there is one. -/
def orMalformed : Option α → Read α
  | some a => pure a
  | none => malformed

/-- The next token, which stays. -/
def peek : Read (Option Token) := return (← get).tokens.head?

/-- Takes the next token. -/
def next : Read (Option Token) := do
  let r ← get
  set { r with tokens := r.tokens.tail }
  return r.tokens.head?

/-- Takes the next token if it is a given character. -/
def skip? (c : Char) : Read Bool := do
  if (← peek) = some (.plain c) then
    let _ ← next
    return true
  else return false

/-- Takes a token that has to be a given character. -/
def expect (c : Char) : Read Unit := do
  if !(← skip? c) then malformed

/-- The characters at the front that have a property, at most so many. -/
def takeWhile (limit : Nat) (holds : Char → Bool) : Read (List Char) := do
  let r ← get
  let isTaken : Token → Bool
    | .plain c => holds c
    | .escaped _ => false
  let front := (r.tokens.take limit).takeWhile isTaken
  set { r with tokens := r.tokens.drop front.length }
  return front.filterMap fun
    | .plain c => some c
    | .escaped _ => none

/-- Takes what is left up to a character, and that character. Nothing but plain characters may stand
in front of it, and at least one. -/
def takeName (terminator : Char) : Read String := do
  let name ← takeWhile (← get).tokens.length (· ≠ terminator)
  expect terminator
  if name.isEmpty then malformed
  return String.ofList name

/-- The width of a group that is closed. -/
def closedWidth? (number : Nat) : Read (Option Width) := do
  if number = 0 then return none
  return (← get).groups[number - 1]?.bind (·.width)

/-- Inside a look behind only groups that were closed before it may be referred to. -/
def checkLook (number : Nat) : Read Unit := do
  match (← get).groupsBeforeLook with
  | none => return
  | some count =>
    if (← closedWidth? number).isNone || count < number then malformed

/-- The number of the group of a given name. -/
def groupNamed? (name : String) : Read (Option Nat) := do
  return ((← get).groups.findIdx? (·.name = some name)).map (· + 1)

/-- Meets a group, which gets the next number. -/
def openGroup (name : Option String) : Read Nat := do
  if let some name := name then
    if (← groupNamed? name).isSome then malformed
  let r ← get
  set { r with groups := r.groups ++ [MetGroup.mk name none] }
  return r.groups.length + 1

/-- The width of an expression all of whose recalled groups are closed. -/
def widthOf (e : Expression) : Read Width := do
  let groups := (← get).groups
  return e.width fun n ↦ (groups[n - 1]?.bind (·.width)).getD .zero

def closeGroup (number : Nat) (e : Expression) : Read Unit := do
  let w ← widthOf e
  modify fun r ↦
    { r with groups := r.groups.modify (number - 1) fun g ↦ { g with width := some w } }

/-- A group that is recalled has to be closed. -/
def checkRecall (number : Nat) : Read Unit := do
  if (← closedWidth? number).isNone then malformed
  checkLook number

end Read

end FormulaAudit.Expression
