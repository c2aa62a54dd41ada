import FormulaAudit.Text.Blank
import FormulaAudit.Text.WordCharacter

/-!
Wrapping of running text. Lines break at blanks, after the hyphen of a compound word and around
dashes; a piece that is wider than a line breaks after its last hyphen that fits, or else where the
line is full.
-/

set_option autoImplicit false

namespace FormulaAudit.Text

/-- A character that may stand at the end of a word in front of a dash. -/
def isWordEnd (c : Char) : Bool := isWordChar c || ['!', '"', '\x27', '&', '.', ',', '?'].contains c

/-- The text starts with two letters, perhaps with a hyphen between them. -/
def startsWithLetters : List Char → Bool
  | a :: '-' :: b :: _ => isWordLetter a && isWordLetter b
  | a :: b :: _ => isWordLetter a && isWordLetter b
  | _ => false

/-- Whether a word may break after a hyphen: if there are two letters on either side of it. The
characters in front of it come latest first. -/
def breaksAfterHyphen (before after : List Char) : Bool :=
  startsWithLetters before && startsWithLetters after

/-- A dash, that is a run of hyphens between two words, starts here. -/
def startsDash (before cs : List Char) : Bool :=
  let hyphens := cs.takeWhile (· == '-')
  2 ≤ hyphens.length && before.head?.any isWordEnd
    && (cs.drop hyphens.length).head?.any isWordChar

def closePiece (current : List Char) : List (List Char) :=
  if current.isEmpty then [] else [current.reverse]

/-- The pieces between which lines may break; `current` is the piece being read, latest character
first, and `dash` tells that it is a dash. -/
def pieces (before current : List Char) (dash : Bool) : List Char → List (List Char)
  | [] => closePiece current
  | c :: cs =>
    if current.isEmpty || (if dash then c != '-' else c == ' ' || startsDash before (c :: cs)) then
      closePiece current ++
        if c = ' ' then [' '] :: pieces (c :: before) [] false cs
        else pieces (c :: before) [c] (startsDash before (c :: cs)) cs
    else if c = '-' && !dash && breaksAfterHyphen before cs then
      (c :: current).reverse :: pieces (c :: before) [] false cs
    else pieces (c :: before) (c :: current) dash cs

/-- The pieces that fit side by side, and the remaining ones. -/
def takeLine (room : Nat) : List (List Char) → List (List Char) × List (List Char)
  | [] => ([], [])
  | piece :: rest =>
    if piece.length ≤ room then
      let (line, rest) := takeLine (room - piece.length) rest
      (piece :: line, rest)
    else ([], piece :: rest)

/-- How much of a piece that is wider than a line goes on the rest of a line. -/
def breakPlace (room : Nat) (piece : List Char) : Nat :=
  let shown := piece.take room
  let upToHyphen := shown.length - (shown.reverse.takeWhile (· != '-')).length
  if 1 < upToHyphen ∧ (shown.take (upToHyphen - 1)).any (· != '-') then upToHyphen else room

def dropBlankEnd (line : List (List Char)) : List (List Char) :=
  match line.reverse with
  | last :: front => if last.all isBlank then front.reverse else line
  | [] => []

/-- The lines of some pieces. Each line takes at least one character. -/
def wrapPieces (width : Nat) : (fuel : Nat) → (isFirst : Bool) → List (List Char) → List (List Char)
  | 0, _, _ => []
  | fuel + 1, isFirst, rest =>
    let rest := match rest with
      | piece :: more => if !isFirst && piece.all isBlank then more else rest
      | [] => []
    if rest.isEmpty then []
    else
      let (line, rest) := takeLine width rest
      let room := width - line.flatten.length
      let (line, rest) := match rest with
        | piece :: more =>
          if width < piece.length then
            let place := breakPlace room piece
            (line ++ [piece.take place], piece.drop place :: more)
          else (line, rest)
        | [] => (line, [])
      let line := dropBlankEnd line
      if line.isEmpty then wrapPieces width fuel isFirst rest
      else line.flatten :: wrapPieces width fuel false rest

/-- The blanks of a text made single spaces, with none at the ends. -/
def singleSpaced (cs : List Char) : List Char :=
  let blanks := cs.map fun c ↦ if isAsciiBlank c then ' ' else c
  trim isBlank ((blanks.zip ('x' :: blanks)).filterMap fun (c, previous) ↦
    if c = ' ' ∧ previous = ' ' then none else some c)

/-- The text in lines of at most a given width, which is not zero. -/
def wrap (width : Nat) (text : String) : List String :=
  let cs := singleSpaced text.toList
  (wrapPieces width (2 * cs.length + 1) true (pieces [] [] false cs)).map String.ofList

end FormulaAudit.Text
