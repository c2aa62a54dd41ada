import FormulaAudit.Rule

/-!
The standard rule book. Rules that mark a formula as complex go by what it holds somewhere within
one line; rules that mark it as simple describe the whole formula. The former come first, so a
formula that fits both is complex.
-/

set_option autoImplicit false

namespace FormulaAudit

namespace Pattern

/-- A column and a row, such as `B12`. -/
def reference : Pattern := seq (repeated (oneOf .capital)) (repeated (oneOf .digit))

/-- A column and a row with a dollar sign in front of each. -/
def fixedReference : Pattern :=
  sequence [literal "$", repeated (oneOf .capital), literal "$", repeated (oneOf .digit)]

/-- Text in double quotes that holds none. -/
def quotedText : Pattern := sequence [literal "\"", many (oneOf (.noneOf "\"")), literal "\""]

/-- What a blank check may result in: quoted text or one reference. -/
def blankCheckOutcome : Pattern :=
  either quotedText <|
    sequence [optional (literal "$"), repeated (oneOf .capital), optional (literal "$"),
      repeated (oneOf .digit)]

/-- The pattern describes the whole formula, up to a line feed at its end. -/
def whole (parts : List Pattern) : Pattern := sequence (start :: parts ++ [finish])

/-- The parts follow each other within one line, with anything between them. -/
def inOrder : List Pattern → Pattern
  | [] => empty
  | [p] => p
  | p :: ps => seq p (seq gap (inOrder ps))

end Pattern

namespace RuleBook

open Pattern

def complexPatterns : List NamedPattern :=
  [ { name := "sumproduct", pattern := caseless "SUMPRODUCT",
      description := "Array aggregation" },
    { name := "index_match", pattern := inOrder [caseless "INDEX", caseless "MATCH"],
      description := "INDEX/MATCH lookup" },
    { name := "nested_vlookup", pattern := inOrder [caseless "VLOOKUP", caseless "VLOOKUP"],
      description := "Nested VLOOKUPs" },
    { name := "triple_if", pattern := inOrder [caseless "IF", caseless "IF", caseless "IF"],
      description := "Three or more conditionals" },
    { name := "iferror_vlookup_if",
      pattern := inOrder [caseless "IFERROR", caseless "VLOOKUP", caseless "IF"],
      description := "Error-wrapped lookup with a conditional" },
    { name := "absolute_range", pattern := sequence [fixedReference, literal ":", fixedReference],
      description := "Fixed absolute range spanning multiple cells" },
    { name := "array_literal", pattern := inOrder [literal "\x7b", literal "\x7d"],
      description := "Array literal syntax" },
    { name := "concatenate_if", pattern := inOrder [caseless "CONCATENATE", caseless "IF"],
      description := "Conditional concatenation" },
    { name := "sum_double_if", pattern := inOrder [caseless "SUM", caseless "IF", caseless "IF"],
      description := "Aggregation over nested conditions" },
    { name := "chained_concatenation",
      pattern := seq gap (inOrder [literal "&", literal "&", literal "&"]),
      description := "Three or more concatenation operators" },
    { name := "and_nested_if",
      pattern := inOrder [caseless "IF(AND(", literal ",", caseless "),", caseless ",IF("],
      description := "Compound condition with a nested IF" },
    { name := "trim_mid", pattern := caseless "TRIM(MID(", description := "Text extraction" },
    { name := "search_mid", pattern := inOrder [caseless "SEARCH", caseless "MID"],
      description := "Text search and extraction" } ]

def simplePatterns : List NamedPattern :=
  [ { name := "cell_reference", pattern := whole [reference],
      description := "Bare cell reference, e.g. A1" },
    { name := "reference_arithmetic",
      pattern := whole [reference, oneOf (.anyOf "+-*/"), reference],
      description := "Arithmetic between two references, e.g. A1+B1" },
    { name := "absolute_division", pattern := whole [reference, literal "/", fixedReference],
      description := "Division by an absolute cell, e.g. D2/$H$16" },
    { name := "blank_check",
      pattern := whole [literal "IF(ISBLANK(", repeated (oneOf (.noneOf ",)")), literal "),",
        blankCheckOutcome, literal ",", blankCheckOutcome, literal ")"],
      description := "Blank check, e.g. IF(ISBLANK(A1),\"\",A1)" },
    { name := "literal_concatenation", pattern := whole [quotedText, literal "&", reference],
      description := "Literal prefix, e.g. \"x\"&A1" },
    { name := "sheet_reference",
      pattern := whole [repeated (oneOf { items := [.range 'A' 'Z', .single '_'] }), literal "!",
        reference],
      description := "Inter-sheet reference, e.g. Data!F27" },
    { name := "number",
      pattern := whole [repeated (oneOf .digit),
        optional (seq (literal ".") (repeated (oneOf .digit)))],
      description := "Numeric literal" },
    { name := "scaled_reference",
      pattern := whole [reference, literal "*",
        repeated (oneOf { items := [.digit, .single '.'] })],
      description := "Reference times a number, e.g. A1*1.2" } ]

/-- Every pattern that a book of rules can be made from by name. -/
def namedPatterns : List NamedPattern := complexPatterns ++ simplePatterns

def patternNamed? (name : String) : Option NamedPattern := namedPatterns.find? (·.name == name)

/-- The rules that apply unless others are asked for. -/
def standard : RuleBook where
  rules := complexPatterns.map (·.rule .complex) ++ simplePatterns.map (·.rule .simple)

end RuleBook

end FormulaAudit
