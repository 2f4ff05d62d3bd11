import TemplateLint.Command.Options
import TemplateLint.Files.Collect
import TemplateLint.Lint.Engine
import TemplateLint.Report.Format
import TemplateLint.Settings.File

/-!
# Running the linter

What the program prints and with which code it ends, for given options and files. Descriptions of rules
come before anything is read; then settings are loaded, the files collected and the rules set up, and
the first step that fails ends the run.
-/

namespace TemplateLint

namespace SettingsError

/-- The cause that lies behind an error, in words of its own. -/
def cause? : SettingsError → Option String
  | io e => some e.message
  | yaml => some Json.malformedMessage
  | json e => some e.message
  | unknownFormat _ => none

/-- The wording of an error together with its cause. -/
def chain (e : SettingsError) : String :=
  e.cause?.elim e.message fun cause => e.message ++ ": " ++ cause

end SettingsError

/-- Whether styles are shown, given whether the output is a terminal. -/
def ColorMode.shows (terminal : Bool) : ColorMode → Bool
  | auto => terminal
  | always => true
  | never => false

namespace Command

/-- What a run prints, and the code with which it ends. -/
structure Outcome where
  exitCode : UInt32
  output : String
  errors : String
  deriving DecidableEq, Repr

/-! ### Descriptions of rules -/

/-- The style of a severity in a description. -/
def severityStyle : Severity → Style
  | .error => .red
  | .warning => .yellow
  | .info => .blue

def severityLabel (styled : Bool) (s : Severity) : String := (severityStyle s).paintIf styled s.name

/-- A text of lines with their ends. -/
def unlines (lines : List String) : String := String.join (lines.map (· ++ "\n"))

/-- A rule in the list of all rules. -/
def ruleEntry (styled : Bool) (i : RuleInfo) : String :=
  let headline := "    " ++ Style.cyan.paintIf styled i.id ++
    " [" ++ severityLabel styled i.severity ++ "] (" ++ i.category.name ++ ")"
  unlines (headline :: i.description.toList.map ("      " ++ ·))

def ruleList (styled : Bool) : String :=
  unlines [Style.bold.paintIf styled "Available rules:", ""] ++
    String.join (builtinInfos.map (ruleEntry styled))

/-- An example in the explanation of a rule. -/
def exampleText (styled : Bool) (style : Style) (word text : String) : String :=
  unlines (["", "  " ++ Style.bold.paintIf styled "Example" ++ " " ++ style.paintIf styled word] ++
    (Text.lines text).map ("    " ++ ·))

def explanation (styled : Bool) (i : RuleInfo) : String :=
  let title (text : String) := Style.bold.paintIf styled text
  unlines [title "Rule Details", "",
      "  " ++ title "ID" ++ ": " ++ Style.cyan.paintIf styled i.id,
      "  " ++ title "Severity" ++ ": " ++ severityLabel styled i.severity,
      "  " ++ title "Category" ++ ": " ++ i.category.name] ++
    i.description.elim "" (fun text => unlines ["", "  " ++ title "Description", "  " ++ text]) ++
    i.exampleBad.elim "" (exampleText styled .red "(incorrect)") ++
    i.exampleGood.elim "" (exampleText styled .green "(correct)") ++
    String.join (i.notes.map fun note => unlines ["", "  " ++ title "Note" ++ ": " ++ note])

/-! ### Failures -/

inductive Failure where
  | unknownRule (rule : String)
  /-- The settings of a file, or of a default place, cannot be loaded. -/
  | settings (path : Option String) (e : SettingsError)
  | nothingNamed
  | pattern (e : CollectError)
  | nothingFound
  | ruleValue (e : RuleValueError)

namespace Failure

def message : Failure → String
  | unknownRule rule => "Rule '" ++ rule ++ "' not found (see --list-rules)"
  | settings (some path) e => "Failed to load config " ++ path ++ ": " ++ e.chain
  | settings none e => "Failed to load config: " ++ e.chain
  | nothingNamed => "No files specified\n\nUsage: header-lint [OPTIONS] <FILES>..."
  | pattern e => e.message
  | nothingFound => "No files found to lint"
  | ruleValue e => "Invalid rule configuration: " ++ e.message

/-- What is printed of a failure. -/
def outcome (styled : Bool) (f : Failure) : Outcome :=
  ⟨1, "", Style.boldRed.paintIf styled "error" ++ ": " ++ f.message ++ "\n"⟩

end Failure

/-! ### Runs -/

namespace Options

/-- The settings with what the options choose in place of their own. -/
def adjust (o : Options) (s : Settings) : Settings :=
  let s := s.override o.format o.jobs o.enable
  { s with
    engine := { s.engine with parallel := s.engine.parallel && !o.noParallel }
    output := { s.output with color := if o.noColor then .never else s.output.color } }

def settings (o : Options) (fs : FileSystem) : Except Failure Settings :=
  let loaded := match o.config with
    | some path => Settings.load fs path
    | none => Settings.loadDefault fs
  (loaded.mapError (.settings o.config)).map o.adjust

end Options

/-- The paths that a run looks at by their names: settings files, and the arguments with the texts that
may lie next to them. -/
def Options.namedPaths (o : Options) (fs : FileSystem) : List String :=
  o.config.elim (Settings.defaultPaths fs) ([·]) ++
    o.files.flatMap fun file => file :: Template.sourceCandidates file

/-- A run that is set up: the rules and the files. -/
structure Job where
  engine : Engine
  files : List String

namespace Job

def prepare (o : Options) (fs : FileSystem) (s : Settings) : Except Failure Job := do
  if o.files.isEmpty then throw .nothingNamed
  let files ← (fs.collect o.files).mapError .pattern
  if files.isEmpty then throw .nothingFound
  return ⟨← (Engine.ofSettings s).mapError .ruleValue, files⟩

/-- What is noted while linting. -/
def notes (job : Job) (verbose : Bool) : String :=
  (if job.engine.rules.any (·.enabled) then ""
    else "[WARN  header_lint] no rule is enabled; " ++
      "set `rules: \x7bheader-main: true\x7d` or pass --enable\n") ++
  (if verbose then
      "[INFO  header_lint] linting " ++ toString job.files.length ++ " file(s)\n"
    else "")

def lint (job : Job) (fs : FileSystem) : LintResult := job.engine.lint fs job.files

/-- What is printed of a result. -/
def outcome (job : Job) (o : Options) (terminal : Bool) (r : LintResult) : Outcome :=
  let output := job.engine.settings.output
  ⟨if o.exitZero then 0 else r.exitCode,
    (ReportFormat.ofOutput output.format (output.color != .never)).report
      (output.color.shows terminal) r,
    job.notes o.verbose⟩

end Job

/-- The first part of a run: its outcome if there is nothing to lint, and else the job to do. -/
def start (o : Options) (fs : FileSystem) (terminal : Bool) : Except Outcome Job :=
  if o.listRules then .error ⟨0, ruleList terminal, ""⟩
  else match o.explain with
    | some rule =>
      match findInfo? rule with
      | some i => .error ⟨0, explanation terminal i, ""⟩
      | none => .error ((Failure.unknownRule rule).outcome terminal)
    | none =>
      match o.settings fs with
      | .error f => .error (f.outcome terminal)
      | .ok s => (Job.prepare o fs s).mapError (·.outcome (s.output.color.shows terminal))

/-- A whole run. The time that it takes is not measured. -/
def run (o : Options) (fs : FileSystem) (terminal : Bool) : Outcome :=
  match start o fs terminal with
  | .error outcome => outcome
  | .ok job => job.outcome o terminal (job.lint fs)

def versionText : String := "header-lint 0.1.0\n"

def helpText : String :=
  unlines [
    "Lints Glimmer template ASTs (as JSON, next to their .hbs source) for string actions on the " ++
      "main header and missing header operation arguments.",
    "",
    "Usage: header-lint [OPTIONS] [FILES]...",
    "",
    "Arguments:",
    "  [FILES]...  AST files, directories or glob patterns to lint",
    "",
    "Options:",
    "  -c, --config <CONFIG>    Configuration file path",
    "  -f, --format <FORMAT>    Output format [possible values: text, json, compact]",
    "  -v, --verbose            Enable verbose output",
    "      --no-color           Disable colored output",
    "  -j, --jobs <JOBS>        Number of parallel jobs (0 = auto)",
    "      --no-parallel        Lint files one after another",
    "      --enable <ENABLE>    Enable rules without a configuration file (comma-separated)",
    "      --list-rules         List available rules and exit",
    "      --explain <EXPLAIN>  Show detailed information about a specific rule",
    "      --exit-zero          Exit with 0 even if errors are found",
    "  -h, --help               Print help",
    "  -V, --version            Print version"]

/-- What is printed when the arguments cannot be read. -/
def UsageError.outcome (e : UsageError) : Outcome :=
  ⟨2, "", "error: " ++ e.message ++
    "\n\nUsage: header-lint [OPTIONS] [FILES]...\n\nFor more information, try '--help'.\n"⟩

/-- The outcome of the program for its arguments. -/
def outcome (arguments : List String) (fs : FileSystem) (terminal : Bool) : Outcome :=
  match parse arguments with
  | .error e => e.outcome
  | .ok .version => ⟨0, versionText, ""⟩
  | .ok .help => ⟨0, helpText, ""⟩
  | .ok (.run o) => run o fs terminal

end Command

end TemplateLint
