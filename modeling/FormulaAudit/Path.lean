/-!
Paths of files and directories. A path is kept in a plain form: single slashes, no parts that are
empty or a single dot, and no slash at the end. A part of two dots stays, since what it means
depends on the directories there are. Two slashes in front are a root of their own; three or more
are one.
-/

set_option autoImplicit false

namespace FormulaAudit

/-- Where a path starts. -/
inductive Path.Anchor where
  | here
  | root
  | doubleRoot
deriving DecidableEq

structure Path where
  anchor : Path.Anchor := .here
  parts : List String := []
deriving DecidableEq

namespace Path

/-- The pieces between separators; one piece more than there are separators. -/
def splitOn (separator : Char) : List Char → List (List Char)
  | [] => [[]]
  | c :: cs =>
    match splitOn separator cs with
    | [] => [[c]]
    | piece :: pieces => if c = separator then [] :: piece :: pieces else (c :: piece) :: pieces

def anchorOf : List Char → Anchor
  | '/' :: '/' :: '/' :: _ => .root
  | '/' :: '/' :: _ => .doubleRoot
  | '/' :: _ => .root
  | _ => .here

def ofString (text : String) : Path where
  anchor := anchorOf text.toList
  parts := ((splitOn '/' text.toList).map String.ofList).filter fun part ↦ part ≠ "" ∧ part ≠ "."

def anchorText : Anchor → String
  | .here => ""
  | .root => "/"
  | .doubleRoot => "//"

/-- The path as text; the path without parts is a dot. -/
def toString (p : Path) : String :=
  if p.anchor = .here ∧ p.parts = [] then "." else anchorText p.anchor ++ "/".intercalate p.parts

instance : ToString Path := ⟨toString⟩

/-- The second path seen from the first. -/
def join (p q : Path) : Path :=
  if q.anchor = .here then { p with parts := p.parts ++ q.parts } else q

def parent (p : Path) : Path := { p with parts := p.parts.dropLast }

theorem length_parent_lt (p : Path) (h : p.parts ≠ []) :
    p.parent.parts.length < p.parts.length := by
  have := List.length_pos_iff.2 h
  simp only [parent, List.length_dropLast]
  omega

/-- The last part, or nothing if there is none. -/
def name (p : Path) : String := p.parts.getLast?.getD ""

/-- What stands before the last dot of a name and from that dot on. A dot at either end of the name
counts as a letter of it. -/
def splitName (name : String) : String × String :=
  let tail := name.toList.reverse.takeWhile (· ≠ '.')
  let front := (name.toList.reverse.drop (tail.length + 1)).reverse
  if tail.length < name.length ∧ front ≠ [] ∧ tail ≠ [] then
    (String.ofList front, String.ofList ('.' :: tail.reverse))
  else (name, "")

/-- The name without its last extension. -/
def stem (p : Path) : String := (splitName p.name).1

/-- The extension by which a format is told: from the last dot on, unless only dots stand in front
of it. A dot at the end is an extension of its own. -/
def extension (p : Path) : String :=
  let tail := p.name.toList.reverse.takeWhile (· ≠ '.')
  let front := p.name.toList.reverse.drop (tail.length + 1)
  if tail.length < p.name.length ∧ front.any (· ≠ '.') then String.ofList ('.' :: tail.reverse)
  else ""

end Path

end FormulaAudit
