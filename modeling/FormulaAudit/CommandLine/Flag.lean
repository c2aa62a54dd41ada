/-!
The flags of the command line and the ways in which a word may name one: in full, by the front of
its long name if that tells it from the others, or by its letter.
-/

set_option autoImplicit false

namespace FormulaAudit.CommandLine

inductive Flag where
  | help
  | directory
  | quiet
  | logLevel
deriving DecidableEq

namespace Flag

def all : List Flag := [help, directory, quiet, logLevel]

def longName : Flag → String
  | help => "--help"
  | directory => "--output-dir"
  | quiet => "--quiet"
  | logLevel => "--log-level"

def letter? : Flag → Option Char
  | help => some 'h'
  | directory => some 'o'
  | quiet => some 'q'
  | logLevel => none

/-- The name in messages. -/
def title : Flag → String
  | help => "-h/--help"
  | directory => "--output-dir/-o"
  | quiet => "--quiet/-q"
  | logLevel => "--log-level"

def takesValue : Flag → Bool
  | directory | logLevel => true
  | help | quiet => false

def ofLetter? (c : Char) : Option Flag := all.find? (·.letter? = some c)

def ofLongName? (name : List Char) : Option Flag := all.find? (·.longName.toList = name)

/-- The flags whose long names begin with a text. -/
def beginningWith (front : List Char) : List Flag :=
  all.filter fun flag ↦ front.isPrefixOf flag.longName.toList

end Flag

def logLevelChoices : List String := ["DEBUG", "INFO", "WARNING", "ERROR"]

end FormulaAudit.CommandLine
