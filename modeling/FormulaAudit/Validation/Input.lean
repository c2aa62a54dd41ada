import FormulaAudit.Features
import FormulaAudit.Record
import FormulaAudit.Settings
import FormulaAudit.Validation.Field

/-!
Records, measurements and settings from JSON objects. Fields that are not known are passed over.
-/

set_option autoImplicit false

namespace FormulaAudit

open Validation

def Record.ofJson (j : Json) : Checked Record :=
  ((((((required text "sheet" j).map Record.mk).apply
    (required text "cell" j)).apply
    (required text "formula" j)).apply
    (withDefault text "" "value" j)).apply
    (withDefault optionalInteger none "row" j)).apply
    (withDefault optionalInteger none "col" j)

def Features.ofJson (j : Json) : Checked Features :=
  ((((((((required integer "length" j).map Features.mk).apply
    (required integer "function_count" j)).apply
    (required integer "if_count" j)).apply
    (required integer "comma_count" j)).apply
    (required truth "cross_sheet" j)).apply
    (withDefault texts [] "complex_functions" j)).apply
    (withDefault texts [] "logical_operators" j)).apply
    (withDefault texts [] "function_names" j)

/-- Settings of which each may be given; the others have their standard values. -/
def Settings.ofJson (j : Json) : Checked Settings :=
  (((((((((withDefault path standard.exportDirectory "export_dir" j).map Settings.mk).apply
    (withDefault text standard.documentName "json_report_name" j)).apply
    (withDefault text standard.tableName "csv_report_name" j)).apply
    (withDefault text standard.narrativeName "markdown_report_name" j)).apply
    (withDefault text standard.logLevel "log_level" j)).apply
    (withDefault integer standard.sampleLimit "sample_limit" j)).apply
    (withDefault integer standard.mediumInventoryLimit "medium_inventory_limit" j)).apply
    (withDefault integer standard.complexInventoryLimit "complex_inventory_limit" j)).apply
    (withDefault integer standard.previewLimit "formula_preview_chars" j)

end FormulaAudit
