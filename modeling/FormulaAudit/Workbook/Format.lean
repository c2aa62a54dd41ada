import FormulaAudit.Path
import FormulaAudit.Text.LetterCase

/-!
Workbook formats by file extension, and the reasons for which a workbook cannot be read.
-/

set_option autoImplicit false

namespace FormulaAudit

/-- Why a workbook cannot be read. -/
inductive Unreadable where
  | oldFormat
  | binaryFormat
  | unknownFormat (extension : String)
  | notAnArchive
  /-- The text of some cell does not stand for a value. -/
  | malformedCell (path : Path)
deriving DecidableEq

namespace Unreadable

def reason : Unreadable → String
  | oldFormat =>
    "openpyxl does not support the old .xls file format, please use xlrd to read this file, "
      ++ "or convert it to the more recent .xlsx file format."
  | binaryFormat =>
    "openpyxl does not support binary format .xlsb, please convert this file to .xlsx format "
      ++ "if you want to open it with openpyxl"
  | unknownFormat extension =>
    "openpyxl does not support " ++ extension ++ " file format, "
      ++ "please check you can open it with Excel first. "
      ++ "Supported formats are: .xlsx,.xlsm,.xltx,.xltm"
  | notAnArchive => "File is not a zip file"
  | malformedCell path =>
    "Unable to read workbook: could not read worksheets from " ++ path.toString ++ ".\n"
      ++ "This is most probably because the workbook source files contain some invalid XML.\n"
      ++ "Please see the exception for more details."

end Unreadable

namespace Workbook

def supportedExtensions : List String := [".xlsx", ".xlsm", ".xltx", ".xltm"]

/-- What speaks against the format of a file; its extension counts in any case. -/
def formatFault? (path : Path) : Option Unreadable :=
  let extension := Text.lowercaseText path.extension
  if extension ∈ supportedExtensions then none
  else if extension = ".xls" then some .oldFormat
  else if extension = ".xlsb" then some .binaryFormat
  else some (.unknownFormat extension)

end Workbook

end FormulaAudit
