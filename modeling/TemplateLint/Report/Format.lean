import TemplateLint.Json.Printer
import TemplateLint.Lint.Diagnostic
import TemplateLint.Report.Text
import TemplateLint.Settings.Basic

/-!
# Formats of reports

Beside the report for a terminal there is one with a line for every diagnostic and one as a JSON value.
The three forms stand behind one name, and settings ask for one of them.
-/

namespace TemplateLint

/-! ### The compact report

One line for every diagnostic. -/

/-- What a compact report shows. -/
structure CompactFormat where
  showSeverity : Bool := true
  showRule : Bool := true
  deriving DecidableEq, Repr

namespace CompactFormat

def diagnostic (f : CompactFormat) (d : Diagnostic) : String :=
  let place := d.location.file ++ ":" ++ toString d.location.line.toNat ++ ":" ++
    toString d.location.column.toNat
  ": ".intercalate ([place] ++ (if f.showSeverity then [d.severity.name] else []) ++
    (if f.showRule then [d.rule] else []) ++ [d.message])

def report (f : CompactFormat) (r : LintResult) : String :=
  "".intercalate (r.diagnostics.map fun d => f.diagnostic d ++ "\n")

end CompactFormat

/-! ### The report as JSON

The report is an object with the diagnostics in their order and a summary of the counts. It is written
on one line, or with one member or item on a line. -/

structure JsonFormat where
  pretty : Bool := false
  deriving DecidableEq, Repr

namespace JsonFormat

/-- A diagnostic in the report. Help that is missing is left out. -/
def diagnosticJson (d : Diagnostic) : Json :=
  .object ([("rule_id", .string d.rule), ("severity", .string d.severity.name),
    ("message", .string d.message), ("file", .string d.location.file),
    ("line", .nat d.location.line.toNat), ("column", .nat d.location.column.toNat),
    ("source", .string d.source)] ++ d.help.toList.map fun help => ("help", .string help))

/-- The counts, and the time in milliseconds. -/
def summaryJson (r : LintResult) : Json :=
  .object [("files_processed", .nat r.files), ("files_with_errors", .nat r.filesWithErrors),
    ("files_with_warnings", .nat r.filesWithWarnings), ("error_count", .nat r.errors),
    ("warning_count", .nat r.warnings), ("info_count", .nat r.infos),
    ("duration_ms", .nat (r.duration / 1000000))]

def reportJson (r : LintResult) : Json :=
  .object [("diagnostics", .array (r.diagnostics.map diagnosticJson)), ("summary", summaryJson r)]

def write (f : JsonFormat) (j : Json) : String := if f.pretty then j.pretty else j.compact

def diagnostic (f : JsonFormat) (d : Diagnostic) : String := f.write (diagnosticJson d)

def report (f : JsonFormat) (r : LintResult) : String := f.write (reportJson r)

end JsonFormat

/-! ### The three forms -/

/-- A form of reports with its options. -/
inductive ReportFormat where
  | text (f : TextFormat)
  | json (f : JsonFormat)
  | compact (f : CompactFormat)
  deriving DecidableEq, Repr

namespace ReportFormat

def ofOutput (output : OutputFormat) (colored : Bool) : ReportFormat :=
  match output with
  | .text => text { colored }
  | .json => json { pretty := true }
  | .compact => compact {}

def report (terminal : Bool) (r : LintResult) : ReportFormat → String
  | text f => f.report terminal r
  | json f => f.report r
  | compact f => f.report r

def diagnostic (terminal : Bool) (d : Diagnostic) : ReportFormat → String
  | text f => f.diagnostic terminal d
  | json f => f.diagnostic d
  | compact f => f.diagnostic d

end ReportFormat

end TemplateLint
