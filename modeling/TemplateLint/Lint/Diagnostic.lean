import TemplateLint.Json.Record

/-!
# Diagnostics

A diagnostic is a finding that a rule made at a place of a file, with the text it is about and, where
the rule has one, a word of help. Its severity says how much it matters. The result of linting holds the
diagnostics of all files with their counts, from which the exit code of the program follows.
-/

namespace TemplateLint

/-! ### Severities

How much a finding matters. Severities are ordered; a rule's findings are errors unless something says
otherwise. -/

inductive Severity where
  | info
  | warning
  | error
  deriving DecidableEq, Repr

namespace Severity

instance : Inhabited Severity := ⟨error⟩

def name : Severity → String
  | info => "info"
  | warning => "warning"
  | error => "error"

/-- The place of a severity in their order. -/
def rank : Severity → Nat
  | info => 0
  | warning => 1
  | error => 2

instance : LE Severity := ⟨fun s t => s.rank ≤ t.rank⟩

instance : LT Severity := ⟨fun s t => s.rank < t.rank⟩

instance (s t : Severity) : Decidable (s ≤ t) := inferInstanceAs (Decidable (s.rank ≤ t.rank))

instance (s t : Severity) : Decidable (s < t) := inferInstanceAs (Decidable (s.rank < t.rank))

/-- The severities by name, the least first. -/
def choices : List (String × Severity) := [info, warning, error].map fun s => (s.name, s)

/-- The severity that a word stands for, in small or capital letters. No letter outside of ASCII has a
letter of these words as its small form. -/
def ofWord? (s : String) : Option Severity :=
  let word := s.map Char.toLower
  if word ∈ ["info", "hint", "note"] then some info
  else if word ∈ ["warning", "warn", "1"] then some warning
  else if word ∈ ["error", "err", "2"] then some error
  else none

def read : Json.Reader Severity := Json.readOneOf choices

end Severity

/-! ### Findings in files -/

/-- A place in a file. Line zero stands for the file as a whole. -/
structure Location where
  file : String
  line : UInt64
  column : UInt64
  deriving DecidableEq, Repr

structure Diagnostic where
  rule : String
  severity : Severity
  message : String
  location : Location
  source : String := ""
  help : Option String := none
  deriving DecidableEq, Repr

namespace Location

def read : Json.Reader Location := fun j => do
  let r ← Json.Record.find ⟨"Location", ["file", "line", "column"], []⟩ false j
  r.conclude <| Location.mk <$> r.required "file" Json.readPath
    <*> r.required "line" Json.readWord <*> r.required "column" Json.readWord

def toJson (l : Location) : Json :=
  .object [("file", .string l.file), ("line", .nat l.line.toNat), ("column", .nat l.column.toNat)]

end Location

namespace Diagnostic

def isError (d : Diagnostic) : Bool := d.severity = .error

def isWarning (d : Diagnostic) : Bool := d.severity = .warning

def read : Json.Reader Diagnostic := fun j => do
  let r ← Json.Record.find
    ⟨"Diagnostic", ["rule_id", "severity", "message", "location"], ["source", "help"]⟩ false j
  r.conclude <| Diagnostic.mk <$> r.required "rule_id" Json.readText
    <*> r.required "severity" Severity.read <*> r.required "message" Json.readText
    <*> r.required "location" Location.read <*> r.optional "source" Json.readText ""
    <*> r.optional "help" (Json.readOptional Json.readText) none

def toJson (d : Diagnostic) : Json :=
  .object [("rule_id", .string d.rule), ("severity", .string d.severity.name),
    ("message", .string d.message), ("location", d.location.toJson), ("source", .string d.source),
    ("help", .optional d.help)]

end Diagnostic

/-! ### Results

What linting found, with counts. Results of several files are merged, and the exit code of the program
follows from the counts. -/

structure LintResult where
  diagnostics : List Diagnostic := []
  files : Nat := 0
  filesWithErrors : Nat := 0
  filesWithWarnings : Nat := 0
  errors : Nat := 0
  warnings : Nat := 0
  infos : Nat := 0
  /-- How long it took, in nanoseconds. -/
  duration : Nat := 0
  deriving DecidableEq, Repr

namespace LintResult

def count (s : Severity) (ds : List Diagnostic) : Nat := ds.countP (·.severity = s)

def ofFile (ds : List Diagnostic) : LintResult where
  diagnostics := ds
  files := 1
  filesWithErrors := if 0 < count .error ds then 1 else 0
  filesWithWarnings := if 0 < count .warning ds then 1 else 0
  errors := count .error ds
  warnings := count .warning ds
  infos := count .info ds

/-- The result of the files of two results. The duration is that of the first. -/
def merge (r s : LintResult) : LintResult where
  diagnostics := r.diagnostics ++ s.diagnostics
  files := r.files + s.files
  filesWithErrors := r.filesWithErrors + s.filesWithErrors
  filesWithWarnings := r.filesWithWarnings + s.filesWithWarnings
  errors := r.errors + s.errors
  warnings := r.warnings + s.warnings
  infos := r.infos + s.infos
  duration := r.duration

def hasErrors (r : LintResult) : Bool := 0 < r.errors

def hasWarnings (r : LintResult) : Bool := 0 < r.warnings

/-- Whether there are neither errors nor warnings. -/
def isClean (r : LintResult) : Bool := r.errors = 0 && r.warnings = 0

def exitCode (r : LintResult) : UInt32 :=
  if 0 < r.errors then 2 else if 0 < r.warnings then 1 else 0

end LintResult

end TemplateLint
