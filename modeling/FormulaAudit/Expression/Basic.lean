import FormulaAudit.Expression.CharTest

/-!
Written expressions: what users write down to describe stretches of a text. Besides characters,
places, sequences, choices and repetitions there are groups that remember what they matched, looks
ahead and behind, parts that are never tried again, and tests of what a group remembers.
-/

set_option autoImplicit false

namespace FormulaAudit

/-- A place in a text. -/
inductive Expression.Anchor where
  | textStart
  | lineStart
  | textEnd
  | lineEnd
  /-- The end of the text, or the place in front of a line feed that is its last character. -/
  | lastLineEnd
  /-- Between a word and something else, or anywhere but there. -/
  | boundary (isAscii negated : Bool)
deriving DecidableEq

/-- In which order the numbers of repetitions are tried. -/
inductive Expression.Repetition where
  | greedy
  | lazy
  /-- As often as possible, and no other number. -/
  | possessive
deriving DecidableEq

inductive Expression where
  | empty
  | one (test : Expression.CharTest)
  | place (anchor : Expression.Anchor)
  | seq (first second : Expression)
  | either (first second : Expression)
  | repeated (kind : Expression.Repetition) (least : Nat) (most : Option Nat) (body : Expression)
  | group (number : Nat) (body : Expression)
  /-- The first way in which the body matches, and no other. -/
  | atomic (body : Expression)
  | ahead (negated : Bool) (body : Expression)
  /-- What stands so many characters before. -/
  | behind (width : Nat) (negated : Bool) (body : Expression)
  /-- What a group matched last. -/
  | groupText (alphabet : Expression.Alphabet) (number : Nat)
  /-- One of two parts, by whether a group has matched. -/
  | ifGroup (number : Nat) (yes no : Expression)

namespace Expression

def sequence : List Expression → Expression
  | [] => empty
  | [e] => e
  | e :: es => seq e (sequence es)

def choice : List Expression → Expression
  | [] => empty
  | [e] => e
  | e :: es => either e (choice es)

/-- The least and the greatest number of characters of a stretch; none if there is no greatest. -/
structure Width where
  least : Nat
  most : Option Nat
deriving DecidableEq

namespace Width

def zero : Width := ⟨0, some 0⟩

def add (u v : Width) : Width :=
  ⟨u.least + v.least, match u.most, v.most with
    | some m, some n => some (m + n)
    | _, _ => none⟩

def either (u v : Width) : Width :=
  ⟨min u.least v.least, match u.most, v.most with
    | some m, some n => some (max m n)
    | _, _ => none⟩

def repeated (w : Width) (least : Nat) (most : Option Nat) : Width :=
  ⟨w.least * least, match w.most, most with
    | some 0, _ => some 0
    | some m, some n => some (m * n)
    | _, _ => none⟩

end Width

/-- The width of an expression, given those of the groups it may repeat. -/
def width (groups : Nat → Width) : Expression → Width
  | empty | place _ | ahead _ _ | behind _ _ _ => .zero
  | one _ => ⟨1, some 1⟩
  | seq e f => (e.width groups).add (f.width groups)
  | either e f => (e.width groups).either (f.width groups)
  | repeated _ least most e => (e.width groups).repeated least most
  | group _ e | atomic e => e.width groups
  | groupText _ n => groups n
  | ifGroup _ e f => (e.width groups).either (f.width groups)

end Expression

end FormulaAudit
