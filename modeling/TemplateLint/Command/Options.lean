import TemplateLint.Settings.Basic
import TemplateLint.Text.Basic

/-!
# Arguments of the command line

An argument that starts with a dash names options, unless it is a dash alone; `--` ends the options.
Short options without values may stand together, and a value may follow its option in the same argument.
Arguments are read from left to right, and the first fault wins. Every option may be given once, except
the one that switches rules on, whose values add up.
-/

namespace TemplateLint.Command

/-- What the arguments choose. -/
structure Options where
  /-- The files, directories and patterns to lint. -/
  files : List String := []
  config : Option String := none
  format : Option OutputFormat := none
  jobs : Option UInt64 := none
  /-- The rules to switch on. -/
  enable : List String := []
  explain : Option String := none
  verbose : Bool := false
  noColor : Bool := false
  noParallel : Bool := false
  listRules : Bool := false
  exitZero : Bool := false
  deriving DecidableEq, Repr

/-- What the arguments ask for. -/
inductive Request where
  | run (o : Options)
  | version
  | help
  deriving DecidableEq, Repr

/-- The options without a value. -/
inductive Switch where
  | verbose
  | noColor
  | noParallel
  | listRules
  | exitZero
  deriving DecidableEq, Repr

/-- The options with a value. -/
inductive Setting where
  | config
  | format
  | jobs
  | enable
  | explain
  deriving DecidableEq, Repr

inductive UsageError where
  | unknownOption (name : String)
  | unexpectedValue (name : String)
  | missingValue (s : Setting)
  | invalidValue (s : Setting) (value : String)
  | repeatedSwitch (s : Switch)
  | repeatedSetting (s : Setting)
  deriving DecidableEq, Repr

def Switch.name : Switch → String
  | verbose => "verbose"
  | noColor => "no-color"
  | noParallel => "no-parallel"
  | listRules => "list-rules"
  | exitZero => "exit-zero"

def Setting.name : Setting → String
  | config => "config"
  | format => "format"
  | jobs => "jobs"
  | enable => "enable"
  | explain => "explain"

def UsageError.message : UsageError → String
  | unknownOption name => "unexpected argument '" ++ name ++ "' found"
  | unexpectedValue name => "unexpected value for '" ++ name ++ "' found"
  | missingValue s => "a value is required for '--" ++ s.name ++ "' but none was supplied"
  | invalidValue s value => "invalid value '" ++ value ++ "' for '--" ++ s.name ++ "'"
  | repeatedSwitch s => "the argument '--" ++ s.name ++ "' cannot be used multiple times"
  | repeatedSetting s => "the argument '--" ++ s.name ++ "' cannot be used multiple times"

/-- What the name of an option stands for. -/
inductive Meaning where
  | switch (s : Switch)
  | setting (s : Setting)
  | request (r : Request)

/-- The meaning of a name behind two dashes. -/
def longName? : String → Option Meaning
  | "config" => some (.setting .config)
  | "format" => some (.setting .format)
  | "jobs" => some (.setting .jobs)
  | "enable" => some (.setting .enable)
  | "explain" => some (.setting .explain)
  | "verbose" => some (.switch .verbose)
  | "no-color" => some (.switch .noColor)
  | "no-parallel" => some (.switch .noParallel)
  | "list-rules" => some (.switch .listRules)
  | "exit-zero" => some (.switch .exitZero)
  | "version" => some (.request .version)
  | "help" => some (.request .help)
  | _ => none

/-- The meaning of a letter behind one dash. -/
def shortName? : Char → Option Meaning
  | 'c' => some (.setting .config)
  | 'f' => some (.setting .format)
  | 'j' => some (.setting .jobs)
  | 'v' => some (.switch .verbose)
  | 'V' => some (.request .version)
  | 'h' => some (.request .help)
  | _ => none

namespace Options

def isOn (o : Options) : Switch → Bool
  | .verbose => o.verbose
  | .noColor => o.noColor
  | .noParallel => o.noParallel
  | .listRules => o.listRules
  | .exitZero => o.exitZero

/-- The options with a switch on, which must be off before. -/
def switchOn (o : Options) (s : Switch) : Except UsageError Options :=
  if o.isOn s then .error (.repeatedSwitch s)
  else match s with
    | .verbose => .ok { o with verbose := true }
    | .noColor => .ok { o with noColor := true }
    | .noParallel => .ok { o with noParallel := true }
    | .listRules => .ok { o with listRules := true }
    | .exitZero => .ok { o with exitZero := true }

/-- Whether an option has its value and takes no other. -/
def isSet (o : Options) : Setting → Bool
  | .config => o.config.isSome
  | .format => o.format.isSome
  | .jobs => o.jobs.isSome
  | .enable => false
  | .explain => o.explain.isSome

/-- The number of 64 bits that a text stands for: decimal digits, with a plus before them or not. -/
def readCount? (text : String) : Option UInt64 :=
  let digits := match text.toList with
    | '+' :: cs => cs
    | cs => cs
  if digits ≠ [] ∧ digits.all Char.isDigit then
    let n := digits.foldl (fun n c => 10 * n + (c.toNat - '0'.toNat)) 0
    if n < UInt64.size then some (.ofNat n) else none
  else none

def set (o : Options) (s : Setting) (value : String) : Except UsageError Options :=
  if o.isSet s then .error (.repeatedSetting s)
  else match s with
    | .config =>
      if value = "" then .error (.missingValue s) else .ok { o with config := some value }
    | .format =>
      match OutputFormat.choices.lookup value with
      | some format => .ok { o with format := some format }
      | none => .error (.invalidValue s value)
    | .jobs =>
      match readCount? value with
      | some jobs => .ok { o with jobs := some jobs }
      | none => .error (.invalidValue s value)
    | .enable => .ok { o with enable := o.enable ++ Text.split ',' value }
    | .explain => .ok { o with explain := some value }

/-- Where an argument leads to. -/
inductive Step where
  | next (o : Options)
  /-- The value of an option is the next argument. -/
  | await (o : Options) (s : Setting)
  | finish (r : Request)

def readLetters (o : Options) : List Char → Except UsageError Step
  | [] => .ok (.next o)
  | c :: cs =>
    match shortName? c with
    | none => .error (.unknownOption ("-" ++ c.toString))
    | some (.request r) => .ok (.finish r)
    | some (.switch s) =>
      match o.switchOn s with
      | .ok o => readLetters o cs
      | .error e => .error e
    | some (.setting s) =>
      match cs with
      | [] => .ok (.await o s)
      | '=' :: value => .next <$> o.set s (String.ofList value)
      | value => .next <$> o.set s (String.ofList value)

/-- Reads a name behind two dashes, with its value if there is one. -/
def readName (o : Options) (name : String) (value : Option String) : Except UsageError Step :=
  match longName? name, value with
  | none, _ => .error (.unknownOption ("--" ++ name))
  | some (.setting s), some value => .next <$> o.set s value
  | some (.setting s), none => .ok (.await o s)
  | some _, some _ => .error (.unexpectedValue ("--" ++ name))
  | some (.switch s), none => .next <$> o.switchOn s
  | some (.request r), none => .ok (.finish r)

def readArgument (o : Options) (argument : String) : Except UsageError Step :=
  match argument.toList with
  | '-' :: '-' :: cs =>
    let value := match cs.dropWhile (· != '=') with
      | _ :: value => some (String.ofList value)
      | [] => none
    o.readName (String.ofList (cs.takeWhile (· != '='))) value
  | '-' :: c :: cs => o.readLetters (c :: cs)
  | _ => .ok (.next { o with files := o.files ++ [argument] })

def namesOptions (argument : String) : Bool := argument.startsWith "-" && argument != "-"

/-- Reads arguments on top of options. -/
def readAll (o : Options) : List String → Except UsageError Request
  | [] => .ok (.run o)
  | argument :: rest =>
    if argument = "--" then .ok (.run { o with files := o.files ++ rest })
    else
      match o.readArgument argument with
      | .error e => .error e
      | .ok (.next o) => readAll o rest
      | .ok (.finish r) => .ok r
      | .ok (.await o s) =>
        match rest with
        | [] => .error (.missingValue s)
        | value :: rest =>
          if namesOptions value then .error (.missingValue s)
          else
            match o.set s value with
            | .error e => .error e
            | .ok o => readAll o rest

end Options

def parse (arguments : List String) : Except UsageError Request := ({} : Options).readAll arguments

end TemplateLint.Command
