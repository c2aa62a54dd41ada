import FormulaAudit.Expression.Escape
import FormulaAudit.Number.Numeral
import FormulaAudit.Text.Identifier

/-!
Reading written expressions. Choices hold branches, and branches hold items, to each of which a mark
of repetition may apply. What all branches of a choice begin with is taken out of it, and a choice
between single characters becomes one set.
-/

set_option autoImplicit false

namespace FormulaAudit.Expression

/-- What a mark of repetition finds in front of it. -/
inductive ItemKind where
  | ordinary
  | anchor
  | repetition
deriving DecidableEq

/-- A branch that is being read: the last item apart, since it may be repeated. -/
structure Branch where
  done : List Piece := []
  last : List Piece := []
  kind : Option ItemKind := none

namespace Branch

def pieces (b : Branch) : List Piece := b.done ++ b.last

def isEmpty (b : Branch) : Bool := b.kind.isNone

def add (b : Branch) (pieces : List Piece) (kind : ItemKind) : Branch :=
  ⟨b.pieces, pieces, some kind⟩

def addPiece (b : Branch) (p : Piece) : Branch :=
  b.add [p] (match p with
    | .place _ => .anchor
    | _ => .ordinary)

end Branch

/-- What the branches begin with in common, and what is left of them. -/
def commonFront : (fuel : Nat) → List (List Piece) → List Piece × List (List Piece)
  | fuel + 1, (p :: ps) :: branches =>
    if branches.all fun branch ↦ branch.head?.any p.isSame then
      let (front, rest) := commonFront fuel (ps :: branches.map List.tail)
      (p :: front, rest)
    else ([], (p :: ps) :: branches)
  | _, branches => ([], branches)

/-- The alphabet and the entries of a branch that is a single character or a set of them. -/
def entriesOf? : List Piece → Option (Alphabet × List Entry)
  | [.test (.literal a false code)] => some (a, [.code code])
  | [.test (.set a false entries)] => some (a, entries)
  | _ => none

/-- The pieces of a choice between branches. -/
def choicePieces (branches : List (List Piece)) : List Piece :=
  match branches with
  | [branch] => branch
  | _ =>
    let (front, rest) := commonFront ((branches.head?.getD []).length) branches
    match rest.mapM entriesOf? with
    | some ((a, entries) :: sets) =>
      front ++ [.test (.set a false (entries ++ sets.flatMap (·.2)).eraseDups)]
    | _ => front ++ [.other (choice (rest.map sequenceOf))]

/-- Numbers of repetitions from here on are refused. -/
def repetitionBound : Nat := 4294967295

namespace Read

/-- A number of repetitions. -/
def repetitionNumber (digits : List Char) : Read (Option Nat) := do
  if digits.isEmpty then return none
  let n := valueIn 10 digits
  if repetitionBound ≤ n then throw .repetitionTooLarge
  return some n

/-- The bounds of a repetition behind an opening brace; none if what follows gives no bounds, and
then nothing is taken. -/
def bounds? : Read (Option (Nat × Option Nat)) := do
  let before ← get
  if (← peek) = some (.plain '}') then return none
  let low ← takeWhile before.tokens.length Char.isDigit
  let isRange ← skip? ','
  let high ← if isRange then takeWhile before.tokens.length Char.isDigit else pure low
  if !(← skip? '}') then
    set before
    return none
  let least ← repetitionNumber low
  let most ← repetitionNumber high
  if most.any (· < least.getD 0) then malformed
  return some (least.getD 0, most)

/-- The manner of a repetition, by a mark behind it. -/
def repetitionKind : Read Repetition := do
  if ← skip? '?' then return .lazy
  if ← skip? '+' then return .possessive
  return .greedy

/-- The branch with its last item repeated, in the manner that a following mark asks for. -/
def repeatLast (b : Branch) (least : Nat) (most : Option Nat) : Read Branch := do
  if b.kind ≠ some .ordinary then malformed
  let kind ← repetitionKind
  modify fun r ↦ { r with hasRepetition := true }
  let body := sequenceOf b.last
  return { b with last := [.other (.repeated kind least most body)], kind := some .repetition }

/-- The letters of flags at the front. -/
def flagLetters : Read Flags := do
  let letters ← takeWhile (← get).tokens.length fun c ↦ (Flag.ofLetter? c).isSome
  return letters.filterMap Flag.ofLetter?

/-- The flags that a group turns off, up to the colon behind them. -/
def flagsOff (on : Flags) : Read (Flags × Flags) := do
  let off ← flagLetters
  expect ':'
  if off.isEmpty || off.any Flag.isAlphabet || on.contains .template || off.contains .template
      || on.any off.contains then malformed
  return (on, off)

/-- The flags that a group turns on and off for what it holds. If no colon follows them they are
turned on for the whole expression, and there is no group. -/
def groupFlags? (first : Char) : Read (Option (Flags × Flags)) := do
  if first = '-' then return some (← flagsOff [])
  let f ← orMalformed (Flag.ofLetter? first)
  let on := f :: (← flagLetters)
  if on.contains .ascii && on.contains .unicode then malformed
  match ← next with
  | some (.plain ')') =>
    modify fun r ↦ { r with flags := r.flags ++ on }
    return none
  | some (.plain ':') => if on.contains .template then malformed else return some (on, [])
  | some (.plain '-') => return some (← flagsOff on)
  | _ => malformed

/-- Takes a comment up to its closing parenthesis. -/
def skipComment : Read Unit := do
  let r ← get
  let rest := r.tokens.dropWhile (· ≠ .plain ')')
  if rest.isEmpty then malformed
  set { r with tokens := rest.tail }

/-- Takes the rest of a line. -/
def skipLine : Read Unit :=
  modify fun r ↦ { r with tokens := (r.tokens.dropWhile (· ≠ .plain '\n')).tail }

/-- The name of a group up to a character. -/
def groupName (terminator : Char) : Read String := do
  let name ← takeName terminator
  if Text.isIdentifier name then return name else malformed

/-- The number of the group that a condition asks for. -/
def conditionGroup : Read Nat := do
  let name ← takeName ')'
  let number ←
    if Text.isIdentifier name then orMalformed (← groupNamed? name)
    else
      let n ← orMalformed (Numeral.integer? name)
      if n ≤ 0 then malformed
      modify fun r ↦ { r with asked := n.toNat :: r.asked }
      pure n.toNat
  checkLook number
  return number

/-- Records a look behind of a body that ends here. -/
def lookBehind (negated : Bool) (body : Expression) : Read Expression := do
  let w ← widthOf body
  if w.most ≠ some w.least || repetitionBound < w.least then
    modify fun r ↦ { r with hasLooseLook := true }
  return .behind w.least negated body

/-- What a group behind its parenthesis turns out to be. -/
inductive Opening where
  | capturing (name : Option String)
  | plain (flags : Flags)
  /-- A part with flags of its own, which stays a part. -/
  | scoped (flags : Flags)
  | atomic
  | ahead (negated : Bool)
  | behind (negated : Bool)
  | condition (number : Nat)
  | groupText (number : Nat)
  /-- Nothing is left to be read of it, and it stands for nothing. -/
  | comment
  | wholeFlags

/-- What follows an opening parenthesis, up to the content of the group. -/
def opening (flags : Flags) : Read Opening := do
  if !(← skip? '?') then return .capturing none
  match ← next with
  | some (.plain 'P') =>
    if ← skip? '<' then return .capturing (some (← groupName '>'))
    expect '='
    let number ← orMalformed (← groupNamed? (← groupName ')'))
    checkRecall number
    return .groupText number
  | some (.plain ':') => return .plain flags
  | some (.plain '#') => do
    skipComment
    return .comment
  | some (.plain '=') => return .ahead false
  | some (.plain '!') => return .ahead true
  | some (.plain '<') =>
    match ← next with
    | some (.plain '=') => return .behind false
    | some (.plain '!') => return .behind true
    | _ => malformed
  | some (.plain '(') => return .condition (← conditionGroup)
  | some (.plain '>') => return .atomic
  | some (.plain c) =>
    match ← groupFlags? c with
    | none => return .wholeFlags
    | some (on, off) => return .scoped (flags.change on off)
  | _ => malformed

/-- The pieces of an item that starts with a character, if it is one without a group, a set or a
repetition. -/
def simplePiece (flags : Flags) (c : Char) : Piece :=
  let many := flags.contains .manyLines
  match c with
  | '^' => .place (if many then .lineStart else .textStart)
  | '$' => .place (if many then .lineEnd else .lastLineEnd)
  | '.' => .test (if flags.contains .acrossLines then .any else .withinLine)
  | _ => .test (.literal flags.alphabet false c.toNat)

/-- The bounds that a mark of repetition stands for; none if the character is no such mark here. -/
def repetition? : Char → Read (Option (Nat × Option Nat))
  | '*' => return some (0, none)
  | '+' => return some (1, none)
  | '?' => return some (0, some 1)
  | '{' => bounds?
  | _ => return none

/-- The token is passed over where blanks and comments are allowed. -/
def isLayout (t : Token) : Bool :=
  match t with
  | .plain c => Text.isAsciiBlank c || c = '#'
  | .escaped _ => false

mutual

/-- The branches up to a closing parenthesis or the end, as the pieces of one choice. -/
def readChoice : (fuel : Nat) → Flags → (isWhole : Bool) → List (List Piece) → Read (List Piece)
  | 0, _, _, _ => malformed
  | fuel + 1, flags, isWhole, branches => do
    let branch ← readBranch fuel flags (isWhole && branches.isEmpty) {}
    let branches := branches ++ [branch]
    if ← skip? '|' then
      let r ← get
      let flags := if isWhole then r.flags else flags
      readChoice fuel flags isWhole branches
    else return choicePieces branches

/-- The items up to a bar, a closing parenthesis or the end. Flags for the whole expression have to
stand in front of its first item. -/
def readBranch : (fuel : Nat) → Flags → (isFirst : Bool) → Branch → Read (List Piece)
  | 0, _, _, _ => malformed
  | fuel + 1, flags, isFirst, b => do
    match ← peek with
    | none | some (.plain '|') | some (.plain ')') => return b.pieces
    | some t =>
      let _ ← next
      if flags.contains .verbose && isLayout t then
        if t = .plain '#' then skipLine
        readBranch fuel flags isFirst b
      else match t with
        | .escaped c => readBranch fuel flags isFirst (b.addPiece (← escape flags c))
        | .plain '[' => readBranch fuel flags isFirst (b.addPiece (.test (← charClass flags)))
        | .plain '(' =>
          match ← opening flags with
          | .comment => readBranch fuel flags isFirst b
          | .wholeFlags =>
            if !isFirst || !b.isEmpty then malformed
            readBranch fuel (← get).flags isFirst b
          | .groupText n => readBranch fuel flags isFirst (b.addPiece (.groupText flags.alphabet n))
          | o => readBranch fuel flags isFirst (b.add (← readGroup fuel flags o) .ordinary)
        | .plain c =>
          match ← repetition? c with
          | some (least, most) => readBranch fuel flags isFirst (← repeatLast b least most)
          | none => readBranch fuel flags isFirst (b.addPiece (simplePiece flags c))

/-- The content of a group and its closing parenthesis. -/
def readGroup : (fuel : Nat) → Flags → Opening → Read (List Piece)
  | 0, _, _ => malformed
  | fuel + 1, flags, o => do
    match o with
    | .capturing name =>
      let number ← openGroup name
      let body := sequenceOf (← readChoice fuel flags false [])
      expect ')'
      closeGroup number body
      return [.other (.group number body)]
    | .plain flags =>
      let pieces ← readChoice fuel flags false []
      expect ')'
      return pieces
    | .scoped flags =>
      let pieces ← readChoice fuel flags false []
      expect ')'
      return [.other (sequenceOf pieces)]
    | .atomic =>
      let pieces ← readChoice fuel flags false []
      expect ')'
      return [.other (.atomic (sequenceOf pieces))]
    | .ahead negated =>
      let pieces ← readChoice fuel flags false []
      expect ')'
      return [.other (.ahead negated (sequenceOf pieces))]
    | .behind negated =>
      let outer := (← get).groupsBeforeLook
      modify fun r ↦ { r with groupsBeforeLook := some (outer.getD r.groups.length) }
      let pieces ← readChoice fuel flags false []
      modify fun r ↦ { r with groupsBeforeLook := outer }
      expect ')'
      return [.other (← lookBehind negated (sequenceOf pieces))]
    | .condition number =>
      let yes ← readBranch fuel flags false {}
      let no ← if ← skip? '|' then readBranch fuel flags false {} else pure []
      expect ')'
      return [.other (.ifGroup number (sequenceOf yes) (sequenceOf no))]
    | .groupText _ | .comment | .wholeFlags => return []

end

/-- Everything up to the end, and what is checked there. -/
def whole : Read Expression := do
  let r ← get
  let pieces ← readChoice (3 * r.tokens.length + 3) r.flags true []
  let r ← get
  if r.flags.contains .ascii && r.flags.contains .unicode then throw .incompatibleFlags
  if !r.tokens.isEmpty || r.asked.any (r.groups.length < ·) || r.hasLooseLook
      || (r.flags.contains .template && r.hasRepetition) then malformed
  return sequenceOf pieces

end Read

/-- The expression that a text writes down. -/
def read (text : String) (options : Options) : Except Fault Expression :=
  match tokens? text.toList with
  | none => .error .malformed
  | some tokens =>
    (Read.whole.run {
      tokens
      flags := options.flags
      characterNamed := options.characterNamed }).map (·.1)

end FormulaAudit.Expression
