/-!
The log of a run: entries of graded importance, each from one part of the program. A threshold hides
the entries below it.
-/

set_option autoImplicit false

namespace FormulaAudit

inductive LogLevel where
  | all
  | debug
  | info
  | warning
  | error
  | critical
deriving DecidableEq

namespace LogLevel

def name : LogLevel → String
  | all => "NOTSET"
  | debug => "DEBUG"
  | info => "INFO"
  | warning => "WARNING"
  | error => "ERROR"
  | critical => "CRITICAL"

def severity : LogLevel → Nat
  | all => 0
  | debug => 10
  | info => 20
  | warning => 30
  | error => 40
  | critical => 50

/-- The level of a name; two levels have a second name. -/
def ofName? : String → Option LogLevel
  | "NOTSET" => some all
  | "DEBUG" => some debug
  | "INFO" => some info
  | "WARNING" | "WARN" => some warning
  | "ERROR" => some error
  | "CRITICAL" | "FATAL" => some critical
  | _ => none

end LogLevel

/-- The parts of the program that write to the log. -/
inductive LogSource where
  | analyzer
  | workbook
  | classifier
  | tally
  | reports
deriving DecidableEq

def LogSource.name : LogSource → String
  | analyzer => "sheetscope.analyzer"
  | workbook => "sheetscope.workbook.reader"
  | classifier => "sheetscope.engine.classifier"
  | tally => "sheetscope.engine.aggregator"
  | reports => "sheetscope.reports.writer"

structure LogEntry where
  level : LogLevel
  source : LogSource
  text : String
deriving DecidableEq

namespace LogEntry

def isShown (threshold : LogLevel) (e : LogEntry) : Bool := threshold.severity ≤ e.level.severity

def line (time : String) (e : LogEntry) : String :=
  time ++ " " ++ e.level.name ++ " " ++ e.source.name ++ ": " ++ e.text

end LogEntry

end FormulaAudit
