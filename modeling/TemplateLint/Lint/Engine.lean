import TemplateLint.Header.Check
import TemplateLint.Lint.Diagnostic
import TemplateLint.Settings.Basic
import TemplateLint.Settings.RuleValue
import TemplateLint.Template.File

/-!
# The engine

An engine has settings and rules. It runs the rules that are switched on and not silent for a file at
every stop of the walk, and stamps what they find with the rule's name, its severity and the file. A file
that cannot be loaded has one finding, which says why.
-/

namespace TemplateLint

/-- The descriptions of the rules that come with the linter. -/
def builtinInfos : List RuleInfo := [Header.info]

/-- The description of a rule that comes with the linter. -/
def findInfo? (id : String) : Option RuleInfo := builtinInfos.find? (·.id = id)

/-- The rules that come with the linter, switched on or off by the settings. -/
def builtinRules (s : Settings) : Except RuleValueError (List Rule) := do
  return [Header.rule (← readSwitch Header.ruleId (s.ruleValue? Header.ruleId))]

/-- Settings with the rules to run. -/
structure Engine where
  settings : Settings
  rules : List Rule

namespace Engine

/-- The engine with the rules that come with the linter. -/
def ofSettings (s : Settings) : Except RuleValueError Engine := do
  return ⟨s, ← builtinRules s⟩

/-- The rules that run for a file, where `read` reads the patterns of the settings. -/
def activeBy (read : PatternReader) (e : Engine) (file : String) : List Rule :=
  e.rules.filter fun r => r.enabled && !e.settings.ignoresBy read r.id file

def active (e : Engine) (file : String) : List Rule := e.activeBy Settings.readPattern file

theorem active_eq (e : Engine) (file : String) :
    e.active file = e.rules.filter fun r => r.enabled && !e.settings.ignores r.id file := rfl

def severity (e : Engine) (r : Rule) : Severity := (e.settings.severity? r.id).getD r.info.severity

/-- The help that goes with the findings of a rule: the description of the first rule of its name. -/
def help (rules : List Rule) (r : Rule) : Option String :=
  (rules.find? (·.id = r.id)).bind (·.info.description)

def diagnose (e : Engine) (file : String) (help : Option String) (r : Rule) (f : Finding) :
    Diagnostic where
  rule := r.id
  severity := e.severity r
  message := f.message
  location := ⟨file, f.position.line, f.position.column⟩
  source := f.source
  help := help

/-- What some rules find in a template, in the order of the walk and then of the rules. -/
def reportsOf (e : Engine) (active : List Rule) (t : Template) (source : Source) (file : String) :
    List Diagnostic :=
  t.occurrences.flatMap fun o =>
    active.flatMap fun r => (r.check source o).map (e.diagnose file (help active r) r)

/-- What the active rules find in a template, where `read` reads the patterns of the settings. -/
def lintTemplateBy (read : PatternReader) (e : Engine) (t : Template) (source : Source)
    (file : String) : List Diagnostic :=
  e.reportsOf (e.activeBy read file) t source file

def lintTemplate (e : Engine) (t : Template) (source : Source) (file : String) : List Diagnostic :=
  e.lintTemplateBy Settings.readPattern t source file

theorem lintTemplate_eq_reportsOf (e : Engine) (t : Template) (source : Source) (file : String) :
    e.lintTemplate t source file = e.reportsOf (e.active file) t source file := rfl

/-! ### Files -/

def loadFailure (file : String) (e : LoadError) : Diagnostic :=
  let location : Location := ⟨file, 0, 0⟩
  match e with
  | .io e =>
    { rule := "file-read-error", severity := .error, location
      message := "Failed to read file: " ++ e.message }
  | e =>
    { rule := "parse-error", severity := .error, location
      message := "Parse error: " ++ e.message }

def lintFile (e : Engine) (fs : FileSystem) (file : String) : List Diagnostic :=
  match fs.loadTemplate file with
  | .ok (t, source) => e.lintTemplate t source file
  | .error failure => [loadFailure file failure]

/-- The result of linting files, one after the other. -/
def lint (e : Engine) (fs : FileSystem) (files : List String) : LintResult :=
  files.foldl (fun r file => r.merge (.ofFile (e.lintFile fs file))) {}

end Engine

end TemplateLint
