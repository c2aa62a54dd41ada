import FormulaAudit.Pattern.Basic

/-!
Searching a text for a pattern. The search keeps, for every place in the text at once, whether a
stretch may end there: a list of marks, one in front of each character and one at the end. Each
part of a pattern moves the marks forward, so the cost is the size of the pattern times the length
of the text, with no backtracking.
-/

set_option autoImplicit false

namespace FormulaAudit.Pattern

/-- The marks of the places in front of the characters and at the end. -/
abbrev Marks := List Bool

/-- Only the first place keeps its mark. -/
def keepFirst : Marks → Marks
  | [] => []
  | b :: marks => b :: marks.map fun _ ↦ false

/-- Only the places with nothing, or only a line feed, after them keep their marks. -/
def keepLast : List Char → Marks → Marks
  | c :: cs, b :: marks => (b && (cs.isEmpty && c == '\n')) :: keepLast cs marks
  | _, marks => marks

/-- Each mark moves over a character of the class. -/
def stepOver (k : CharClass) (cs : List Char) (marks : Marks) : Marks :=
  false :: List.zipWith (fun c b ↦ b && k.contains c) cs marks

/-- Each mark spreads over a run of characters of the class. -/
def runOver (k : CharClass) : List Char → Marks → Bool → Marks
  | c :: cs, b :: marks, carried =>
    (b || carried) :: runOver k cs marks ((b || carried) && k.contains c)
  | [], b :: marks, carried => (b || carried) :: marks
  | _, [], _ => []

def union (first second : Marks) : Marks := List.zipWith (· || ·) first second

/-- Adds the marks that `move` leads to, up to `rounds` times or until none is new. -/
def spread (move : Marks → Marks) : Nat → Marks → Marks
  | 0, marks => marks
  | rounds + 1, marks =>
    let wider := union marks (move marks)
    if wider == marks then marks else spread move rounds wider

/-- Where stretches of the pattern end that begin at a mark. -/
def advance (cs : List Char) : Pattern → Marks → Marks
  | empty, marks => marks
  | start, marks => keepFirst marks
  | finish, marks => keepLast cs marks
  | oneOf k, marks => stepOver k cs marks
  | seq p q, marks => advance cs q (advance cs p marks)
  | either p q, marks => union (advance cs p marks) (advance cs q marks)
  | many (oneOf k), marks => runOver k cs marks false
  | many p, marks => spread (advance cs p) cs.length marks

/-- Every place is marked. -/
def everywhere (cs : List Char) : Marks := true :: cs.map fun _ ↦ true

/-- Some stretch of the text has the pattern. -/
def search (p : Pattern) (text : List Char) : Bool :=
  (advance text p (everywhere text)).contains true

def foundIn (p : Pattern) (text : String) : Bool := p.search text.toList

end FormulaAudit.Pattern
