import FormulaAudit.Error
import FormulaAudit.FileSystem

/-!
Why a run fails: the analysis has no result, a path cannot be used, or a workbook stores a span of
time that cannot be held.
-/

set_option autoImplicit false

namespace FormulaAudit

inductive Failure where
  | audit (e : AuditError)
  | file (e : FileError)
  | duration (f : Duration.Fault)
deriving DecidableEq

def Failure.message : Failure → String
  | audit e => e.message
  | file e => e.message
  | duration f => f.message

end FormulaAudit
