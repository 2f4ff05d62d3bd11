import TemplateLint.Decimal
import TemplateLint.Files.Path
import TemplateLint.Lint.Diagnostic

/-!
# The report as a text

The report has a section for every file, in the order of the paths. A section has the file's path as
its title and below that the file's diagnostics. Behind the sections stand counts and the time.

A diagnostic is a line with its place, its severity, its rule and its message. Below that stand the
lines that it is about, and its help. What is on one line only is underlined.
-/

namespace TemplateLint

/-! ### Styles of a terminal

A style is switched on by an escape sequence in front of a text and off by another one behind it. Where
the text switches styles off itself, the style is switched on again. -/

inductive Style where
  | bold
  | underline
  | red
  | green
  | yellow
  | blue
  | cyan
  | boldRed
  | boldYellow
  deriving DecidableEq, Repr

namespace Style

def codes : Style → String
  | bold => "1"
  | underline => "4"
  | red => "31"
  | green => "32"
  | yellow => "33"
  | blue => "34"
  | cyan => "36"
  | boldRed => "1;31"
  | boldYellow => "1;33"

/-- The sequence with some codes. -/
def sequence (codes : String) : List Char := '\x1b' :: '[' :: (codes ++ "m").toList

/-- The sequence that switches a style on. -/
def start (s : Style) : List Char := sequence s.codes

/-- The sequence that switches every style off. -/
def reset : List Char := sequence "0"

/-- A text with a sequence put behind every reset in it. -/
def restart (again : List Char) : List Char → List Char
  | '\x1b' :: '[' :: '0' :: 'm' :: cs => reset ++ again ++ restart again cs
  | c :: cs => c :: restart again cs
  | [] => []

def paint (s : Style) (text : String) : String :=
  String.ofList (s.start ++ restart s.start text.toList ++ reset)

/-- A text in a style, or as it is where styles are not to be shown. -/
def paintIf (shown : Bool) (s : Style) (text : String) : String :=
  if shown then s.paint text else text

end Style

/-! ### What is shown -/

/-- What a text report shows. -/
structure TextFormat where
  colored : Bool := true
  showSource : Bool := true
  showHelp : Bool := true
  showStats : Bool := true
  deriving DecidableEq, Repr

namespace TextFormat

variable (terminal : Bool) (f : TextFormat)

/-- A text in a style, if the report is coloured and the terminal shows styles. -/
def paint (s : Style) (text : String) : String :=
  s.paintIf (f.colored && terminal) text

variable {terminal f} in
theorem paint_of_off (h : (f.colored && terminal) = false) (s : Style) (text : String) :
    f.paint terminal s text = text := by
  rw [paint, h]
  rfl

def severityStyle : Severity → Style
  | .error => .boldRed
  | .warning => .boldYellow
  | .info => .blue

/-! ### A diagnostic -/

/-- The line that says what a diagnostic is. -/
def headline (d : Diagnostic) : String :=
  d.location.file ++ ":" ++ toString d.location.line.toNat ++ ":" ++
    toString d.location.column.toNat ++ ": " ++
    f.paint terminal (severityStyle d.severity) d.severity.name ++
    "[" ++ f.paint terminal .cyan d.rule ++ "]: " ++ d.message ++ "\n"

/-- The numbered lines of a snippet. The numbers are words, and zero comes after the largest one. -/
def numbered : (number : UInt64) → List String → String
  | _, [] => ""
  | number, line :: lines =>
    f.paint terminal .blue (Text.padLeft 4 (toString number.toNat)) ++ " " ++
      f.paint terminal .blue "|" ++ " " ++ line ++ "\n" ++ numbered (number + 1) lines

/-- The carets under a snippet of one line. -/
def carets (source : String) : String :=
  "     " ++ f.paint terminal .blue "|" ++ " " ++
    f.paint terminal .red (String.ofList (List.replicate (max source.length 1) '^')) ++ "\n"

/-- The text that a diagnostic is about. -/
def snippet (d : Diagnostic) : String :=
  "     " ++ f.paint terminal .blue "|" ++ "\n" ++
    f.numbered terminal d.location.line (Text.lines d.source) ++
    if '\n' ∈ d.source.toList then "" else f.carets terminal d.source

def helpLine (help : String) : String :=
  "     " ++ f.paint terminal .blue "=" ++ " help: " ++ help ++ "\n"

def diagnostic (d : Diagnostic) : String :=
  f.headline terminal d ++
    (if f.showSource && d.source ≠ "" then f.snippet terminal d else "") ++
    match f.showHelp, d.help with
    | true, some help => f.helpLine terminal help
    | _, _ => ""

/-! ### The whole report -/

/-- The diagnostics of a file, under the first spelling of its path. -/
structure Section where
  title : String
  diagnostics : List Diagnostic
  deriving DecidableEq, Repr

/-- Puts a diagnostic behind the others of its file. Sections are in the order of their paths. -/
def insert (d : Diagnostic) : List Section → List Section
  | [] => [⟨d.location.file, [d]⟩]
  | s :: ss =>
    match Path.order d.location.file s.title with
    | .lt => ⟨d.location.file, [d]⟩ :: s :: ss
    | .eq => { s with diagnostics := s.diagnostics ++ [d] } :: ss
    | .gt => s :: insert d ss

def sections (ds : List Diagnostic) : List Section := ds.foldl (fun ss d => insert d ss) []

def sectionText (s : Section) : String :=
  f.paint terminal .underline s.title ++ "\n" ++
    "".intercalate (s.diagnostics.map fun d => f.diagnostic terminal d ++ "\n")

/-- A count with its noun, unless it is zero. -/
def count (style : Style) (n : Nat) (singular plural : String) : Option String :=
  if n = 0 then none
  else some (f.paint terminal style (toString n ++ " " ++ if n = 1 then singular else plural))

def counts (r : LintResult) : List String :=
  [f.count terminal .red r.errors "error" "errors",
    f.count terminal .yellow r.warnings "warning" "warnings",
    f.count terminal .blue r.infos "info" "infos"].filterMap id

def seconds (nanoseconds : Nat) : Float :=
  Float.ofNat (nanoseconds / 1000000000) + Float.ofNat (nanoseconds % 1000000000) / 1000000000.0

/-- The lines behind the sections. -/
def stats (r : LintResult) : String :=
  toString r.files ++ (if r.files = 1 then " file" else " files") ++ " processed" ++
    (match f.counts terminal r with
      | [] => ""
      | counts => ": " ++ ", ".intercalate counts) ++
    "\nFinished in " ++ Decimal.fixed 2 (seconds r.duration) ++ "s\n"

def report (r : LintResult) : String :=
  "".intercalate ((sections r.diagnostics).map (f.sectionText terminal)) ++
    if f.showStats then f.stats terminal r else ""

end TextFormat

end TemplateLint
