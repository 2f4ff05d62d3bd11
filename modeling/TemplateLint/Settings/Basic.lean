import TemplateLint.Ignore.Pattern
import TemplateLint.Lint.Diagnostic

/-!
# Settings

What a user may choose: how the linter runs, how it reports, what each rule is set to, how much its
findings matter, and which rules stay silent for which files. Each of the three maps has every key
once.
-/

namespace TemplateLint

inductive OutputFormat where
  | text
  | json
  | compact
  deriving DecidableEq, Repr, Inhabited

/-- When a report is coloured. -/
inductive ColorMode where
  | auto
  | always
  | never
  deriving DecidableEq, Repr, Inhabited

def OutputFormat.name : OutputFormat → String
  | text => "text"
  | json => "json"
  | compact => "compact"

def ColorMode.name : ColorMode → String
  | auto => "auto"
  | always => "always"
  | never => "never"

def OutputFormat.choices : List (String × OutputFormat) :=
  [OutputFormat.text, .json, .compact].map fun f => (f.name, f)

def ColorMode.choices : List (String × ColorMode) :=
  [ColorMode.auto, .always, .never].map fun m => (m.name, m)

/-- How the linter runs. Zero jobs stand for as many as the machine has processors. -/
structure EngineSettings where
  parallel : Bool := true
  jobs : UInt64 := 0
  deriving DecidableEq, Repr, Inhabited

/-- How the linter reports. -/
structure OutputSettings where
  format : OutputFormat := .text
  color : ColorMode := .auto
  deriving DecidableEq, Repr, Inhabited

structure Settings where
  engine : EngineSettings := {}
  output : OutputSettings := {}
  /-- What each rule is set to. -/
  rules : List (String × Json) := []
  /-- Severities of rules in place of their own. -/
  severity : List (String × Severity) := []
  /-- Patterns of paths with the rules that are silent there. -/
  ignore : List (String × List String) := []

namespace Settings

def ruleValue? (s : Settings) (rule : String) : Option Json := s.rules.lookup rule

/-- The severity that a rule has in place of its own. -/
def severity? (s : Settings) (rule : String) : Option Severity := s.severity.lookup rule

/-- The settings with a rule switched on. -/
def enable (s : Settings) (rule : String) : Settings :=
  { s with rules := Json.insertMember rule (.bool true) s.rules }

/-- The settings with the choices of a command line in place of their own. -/
def override (s : Settings) (format : Option OutputFormat) (jobs : Option UInt64)
    (enabled : List String) : Settings :=
  enabled.foldl enable
    { s with
      output := { s.output with format := format.getD s.output.format }
      engine := { s.engine with jobs := jobs.getD s.engine.jobs } }

def toJson (s : Settings) : Json :=
  .object [
    ("engine", .object [("parallel", .bool s.engine.parallel), ("jobs", .nat s.engine.jobs.toNat)]),
    ("output", .object [("format", .string s.output.format.name),
      ("color", .string s.output.color.name)]),
    ("rules", .object s.rules),
    ("severity", .object (s.severity.map fun (k, v) => (k, .string v.name))),
    ("ignore", .object (s.ignore.map fun (k, v) => (k, .array (v.map .string))))]

end Settings

/-! ### Rules that are silent for a file

A rule is silent for a file when some pattern of the settings matches the file's path and lists the
rule, or lists `all`. Patterns that cannot be read list nothing. -/

/-- A way to read patterns of paths: a pattern is rejected, or it tells which paths it matches. -/
abbrev PatternReader := String → Option (String → Bool)

namespace Settings

/-- Whether a rule is silent for a file, where `read` reads the patterns. -/
def ignoresBy (read : PatternReader) (s : Settings) (rule file : String) : Bool :=
  s.ignore.any fun (pattern, rules) =>
    (read pattern).any (· file) && rules.any fun r => r == "all" || r == rule

/-- How the patterns of settings are read. -/
def readPattern : PatternReader := fun pattern =>
  (Ignore.Pattern.parse? pattern).map fun p => p.isMatch

def ignores : Settings → String → String → Bool := ignoresBy readPattern

end Settings

end TemplateLint
