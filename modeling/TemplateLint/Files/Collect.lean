import TemplateLint.Files.Expand
import TemplateLint.Template.File

/-!
# Collecting files

The arguments of the linter name files, patterns of files, and directories. A directory stands for the
stored templates below it. All files together come in the order of their paths, each once.
-/

namespace TemplateLint

/-- A pattern that cannot be read. -/
structure CollectError where
  pattern : String
  error : WildcardError
  deriving DecidableEq, Repr

def CollectError.message (e : CollectError) : String :=
  "Invalid pattern '" ++ e.pattern ++ "': " ++ e.error.message

namespace Path

/-- Paths without those that are the same as the one before. -/
def dedup : List String → List String
  | p :: q :: ps => if same p q then dedup (p :: ps) else p :: dedup (q :: ps)
  | ps => ps
termination_by ps => ps.length

/-- Paths in their order, each once. Of several spellings the first stays. -/
def sortUnique (ps : List String) : List String :=
  dedup (ps.mergeSort fun p q => order p q != .gt)

end Path

namespace FileSystem

/-- The pattern that an argument stands for. -/
def argumentPattern (fs : FileSystem) (argument : String) : String :=
  if fs.isDirectory argument then Text.trimRight '/' argument ++ "/**/*.json" else argument

/-- The files that an argument stands for, where `expand` finds the paths that match a pattern. -/
def collectArgument (expand : String → Except WildcardError (List String)) (fs : FileSystem)
    (argument : String) : Except CollectError (List String) := do
  let pattern := fs.argumentPattern argument
  let paths ← (expand pattern).mapError (.mk pattern)
  let files := paths.filter fs.isFile
  return if fs.isDirectory argument then files.filter fs.isTemplatePath else files

/-- The files that some arguments stand for, where `expand` finds the paths that match a pattern. -/
def collectBy (expand : String → Except WildcardError (List String)) (fs : FileSystem)
    (arguments : List String) : Except CollectError (List String) := do
  return Path.sortUnique (← arguments.mapM (fs.collectArgument expand)).flatten

def collect (fs : FileSystem) : List String → Except CollectError (List String) :=
  fs.collectBy fs.expand

end FileSystem

end TemplateLint
