import TemplateLint.Command.Run

/-!
# The program

Reads the files that a run needs, runs the linter on them, prints what it has to say and ends with its
exit code. Directories are not listed: where an argument is a directory or a pattern, the paths of the
files below the working directory are taken from the standard input, one on each line.
-/

namespace TemplateLint.Main

/-- What lies at a path on the disk. The entries of a directory are left out, and a file that may not be
read is there with the reason. -/
def readEntry? (path : String) : IO (Option Entry) := do
  try
    return some (.file (← IO.FS.readBinFile path))
  catch
    | .inappropriateType _ 21 _ => return some (.directory [])
    | .permissionDenied _ code details => return some (.unreadable s!"{details} (os error {code})")
    | _ => return none

/-- Puts what lies at some paths on the disk into a file system. -/
def readPaths (fs : FileSystem) (paths : List String) : IO FileSystem :=
  paths.foldlM (fun fs path => do return (← readEntry? path).elim fs (fs.put path)) fs

/-- The lines of a stream, without their ends. -/
partial def readLines (stream : IO.FS.Stream) : IO (List String) := do
  let line ← stream.getLine
  if line.isEmpty then return []
  return Text.trimRight '\n' line :: (← readLines stream)

/-- An empty file system with the working directory and the user's own directory of the process. -/
def emptyFiles : IO FileSystem := do
  let fs : FileSystem := ⟨.directory [], [], ← IO.getEnv "HOME"⟩
  let fs := { fs with workDir := (← IO.getEnv "PWD").elim [] fs.place }
  return fs.put "." (.directory [])

/-- The files that a run may look at. -/
def readFiles (o : Command.Options) : IO FileSystem := do
  let fs ← emptyFiles
  let fs ← readPaths fs (o.namedPaths fs)
  if o.files.all fs.isFile then return fs
  readPaths fs (← readLines (← IO.getStdin))

/-- Runs the linter and measures the time that it takes. -/
def run (o : Command.Options) : IO Command.Outcome := do
  let fs ← readFiles o
  let terminal ← (← IO.getStdout).isTty
  match Command.start o fs terminal with
  | .error outcome => return outcome
  | .ok job =>
    let before ← IO.monoNanosNow
    let r ← IO.lazyPure fun _ => job.lint fs
    let after ← IO.monoNanosNow
    return job.outcome o terminal { r with duration := after - before }

end TemplateLint.Main

def main (arguments : List String) : IO UInt32 := do
  let outcome ← match TemplateLint.Command.parse arguments with
    | .ok (.run o) => TemplateLint.Main.run o
    | _ => pure (TemplateLint.Command.outcome arguments ⟨.directory [], [], none⟩ false)
  IO.eprint outcome.errors
  IO.print outcome.output
  return outcome.exitCode
