import FormulaAudit.Expression.Basic

/-!
Searching a text for an expression. The ways in which an expression matches are tried in order, each
with what is to follow it; the first way that what follows accepts counts. A repetition that has
matched without moving on is not repeated once more.
-/

set_option autoImplicit false

namespace FormulaAudit.Expression

/-- How far matching has come. -/
structure Progress where
  index : Nat
  /-- Where groups started last, by number. -/
  starts : List (Nat × Nat) := []
  /-- Where groups ended last, by number. -/
  ends : List (Nat × Nat) := []

namespace Progress

def put (number index : Nat) (places : List (Nat × Nat)) : List (Nat × Nat) :=
  (number, index) :: places.filter (·.1 ≠ number)

def openGroup (p : Progress) (number : Nat) : Progress :=
  { p with starts := put number p.index p.starts }

def closeGroup (p : Progress) (number : Nat) : Progress :=
  { p with ends := put number p.index p.ends }

/-- Where the group that matched last starts and ends. -/
def group? (p : Progress) (number : Nat) : Option (Nat × Nat) := do
  let first ← p.starts.lookup number
  let last ← p.ends.lookup number
  if first ≤ last then some (first, last) else none

end Progress

/-- What is to be matched next. -/
abbrev Next := Progress → Option Progress

/-- Matches something, and then what is to follow. -/
abbrev Matcher := Progress → Next → Option Progress

/-- The first of two ways that works. -/
def firstOf (first : Option Progress) (second : Unit → Option Progress) : Option Progress :=
  match first with
  | some p => some p
  | none => second ()

/-- There is a character of a word at an index. -/
def isWordAt (text : Array Char) (isAscii : Bool) (index : Nat) : Bool :=
  text[index]?.any fun c ↦ ({ isAscii } : Alphabet).holds .word c.toNat

def Anchor.holds (text : Array Char) (index : Nat) : Anchor → Bool
  | textStart => index == 0
  | lineStart => index == 0 || text[index - 1]? == some '\n'
  | textEnd => index == text.size
  | lineEnd => index == text.size || text[index]? == some '\n'
  | lastLineEnd => index == text.size || (index + 1 == text.size && text[index]? == some '\n')
  | boundary isAscii negated =>
    let before := 0 < index && isWordAt text isAscii (index - 1)
    !text.isEmpty && negated != (before != isWordAt text isAscii index)

/-- The text repeats, from one index on, what stands between two others. -/
def repeatsAt (text : Array Char) (a : Alphabet) (first last index : Nat) : Bool :=
  index + (last - first) ≤ text.size &&
    (List.range (last - first)).all fun offset ↦
      (text[first + offset]?.map fun c ↦ a.fold c.toNat)
        == text[index + offset]?.map fun c ↦ a.fold c.toNat

def allowsMore (most : Option Nat) (count : Nat) : Bool := most.all (count < ·)

/-- Matches a body again and again, as many times as possible first, or as few. `last` is where the
previous repetition beyond the least number started. Each repetition but one moves on, so `fuel`
suffices if it exceeds the least number and the length of the text together. -/
def iterate (body : Matcher) (isLazy : Bool) (least : Nat) (most : Option Nat) :
    (fuel count : Nat) → (last : Option Nat) → Matcher
  | 0, _, _, p, next => next p
  | fuel + 1, count, last, p, next =>
    if count < least then
      body p fun p ↦ iterate body isLazy least most fuel (count + 1) last p next
    else
      let again (_ : Unit) : Option Progress :=
        if allowsMore most count ∧ last ≠ some p.index then
          body p fun q ↦ iterate body isLazy least most fuel (count + 1) (some p.index) q next
        else none
      if isLazy then firstOf (next p) again else firstOf (again ()) fun _ ↦ next p

/-- Matches a body as often as possible, each time in the first way there is. -/
def exhaust (body : Matcher) (least : Nat) (most : Option Nat) :
    (fuel count : Nat) → (last : Option Nat) → Progress → Option Progress
  | 0, _, _, p => some p
  | fuel + 1, count, last, p =>
    if count < least then
      (body p some).bind (exhaust body least most fuel (count + 1) last)
    else if allowsMore most count ∧ last ≠ some p.index then
      match body p some with
      | some q => exhaust body least most fuel (count + 1) (some p.index) q
      | none => some p
    else some p

/-- Matches an expression, and then what is to follow it. -/
def run (text : Array Char) : Expression → Matcher
  | empty, p, next => next p
  | one test, p, next =>
    if text[p.index]?.any test.holds then next { p with index := p.index + 1 } else none
  | place anchor, p, next => if anchor.holds text p.index then next p else none
  | seq e f, p, next => run text e p fun p ↦ run text f p next
  | either e f, p, next => firstOf (run text e p next) fun _ ↦ run text f p next
  | repeated .greedy least most e, p, next =>
    iterate (fun p next ↦ run text e p next) false least most (least + text.size + 2) 0 none p next
  | repeated .lazy least most e, p, next =>
    iterate (fun p next ↦ run text e p next) true least most (least + text.size + 2) 0 none p next
  | repeated .possessive least most e, p, next =>
    (exhaust (fun p next ↦ run text e p next) least most (least + text.size + 2) 0 none p).bind next
  | group number e, p, next =>
    run text e (p.openGroup number) fun p ↦ next (p.closeGroup number)
  | atomic e, p, next => (run text e p some).bind next
  | ahead negated e, p, next =>
    match run text e p some, negated with
    | some q, false => next { q with index := p.index }
    | none, true => next p
    | _, _ => none
  | behind width negated e, p, next =>
    let found :=
      if width ≤ p.index then run text e { p with index := p.index - width } some else none
    match found, negated with
    | some q, false => next { q with index := p.index }
    | none, true => next p
    | _, _ => none
  | groupText a number, p, next =>
    match p.group? number with
    | some (first, last) =>
      if repeatsAt text a first last p.index then
        next { p with index := p.index + (last - first) }
      else none
    | none => none
  | ifGroup number e f, p, next =>
    if (p.group? number).isSome then run text e p next else run text f p next

/-- Some stretch of the text matches the expression. -/
def foundIn (e : Expression) (text : String) : Bool :=
  let cs := text.toList.toArray
  (List.range (cs.size + 1)).any fun index ↦ (run cs e { index } some).isSome

end FormulaAudit.Expression
