import TemplateLint.Text.Basic

/-!
# File systems

A file system is a tree of directories with files at its leaves, together with the directory that
relative paths start from. Looking up a path goes from directory to directory, so that a path that goes
on behind a file, be it by a slash only, leads nowhere. A file may be there and not be readable: its path
leads to it, and only reading it fails.
-/

namespace TemplateLint

/-- A file or a directory. The entries of a directory stand in the order of their names. -/
inductive Entry where
  | file (content : ByteArray)
  /-- A file that the system does not let be read, with the reason that it gives. -/
  | unreadable (reason : String)
  | directory (entries : List (String × Entry))

namespace Entry

def isFile : Entry → Bool
  | file _ | unreadable _ => true
  | directory _ => false

def isDirectory (e : Entry) : Bool := !e.isFile

def children : Entry → List (String × Entry)
  | file _ | unreadable _ => []
  | directory entries => entries

/-- Changes the entry of a name, which `none` stands for if there is none. The names stay in order. -/
def update (name : String) (change : Option Entry → Entry) :
    List (String × Entry) → List (String × Entry)
  | [] => [(name, change none)]
  | (n, e) :: rest =>
    if n = name then (n, change (some e)) :: rest
    else if name < n then (name, change none) :: (n, e) :: rest
    else (n, e) :: update name change rest

/-- Puts an entry at the place that some names lead to. The directories on the way are made where they
are missing, and a directory that is there takes in the entries of one that is put in its place. -/
def insert (entry : Entry) : List String → Option Entry → Entry
  | [], some (directory old) =>
    match entry with
    | directory new => directory (new.foldl (fun es (name, e) => update name (fun _ => e) es) old)
    | _ => entry
  | [], _ => entry
  | name :: names, here =>
    directory (update name (insert entry names) ((here.map children).getD []))

end Entry

/-- Why a file cannot be read. -/
inductive FileError where
  | notFound
  | isDirectory
  | notDirectory
  | notText
  /-- The file is there, and the system gives this reason. -/
  | unreadable (reason : String)
  deriving DecidableEq, Repr

def FileError.message : FileError → String
  | notFound => "No such file or directory (os error 2)"
  | isDirectory => "Is a directory (os error 21)"
  | notDirectory => "Not a directory (os error 20)"
  | notText => "stream did not contain valid UTF-8"
  | unreadable reason => reason

/-- A tree of files. -/
structure FileSystem where
  root : Entry
  /-- The names that lead from the root to the working directory. -/
  workDir : List String
  /-- The path of the user's own directory. -/
  home : Option String

namespace FileSystem

/-- Follows the pieces of a path from the entry `here`, which lies below the directories `above`, the
closest first. -/
def follow (above : List Entry) (here : Entry) : List String → Except FileError Entry
  | [] => .ok here
  | piece :: pieces =>
    match here with
    | .file _ | .unreadable _ => .error .notDirectory
    | .directory entries =>
      if piece = "" ∨ piece = "." then follow above here pieces
      else if piece = ".." then
        match above with
        | [] => follow [] here pieces
        | up :: above => follow above up pieces
      else
        match entries.lookup piece with
        | none => .error .notFound
        | some e => follow (here :: above) e pieces

/-- The names that lead from the root to the place of a path, where `..` takes back the name before
it. -/
def place (fs : FileSystem) (path : String) : List String :=
  let start := if path.startsWith "/" then [] else fs.workDir
  (Text.split '/' path).foldl step start
where
  /-- Goes on by one piece of the path. -/
  step (names : List String) (piece : String) : List String :=
    if piece = "" ∨ piece = "." then names
    else if piece = ".." then names.dropLast
    else names ++ [piece]

/-- The file system with an entry put at the place of a path. -/
def put (fs : FileSystem) (path : String) (entry : Entry) : FileSystem :=
  { fs with root := entry.insert (fs.place path) (some fs.root) }

/-- The entry that a path leads to. -/
def lookup (fs : FileSystem) (path : String) : Except FileError Entry :=
  match Text.split '/' path with
  | [""] => .error .notFound
  | "" :: pieces => follow [] fs.root pieces
  | pieces => follow [] fs.root (fs.workDir ++ pieces)

/-- The entry that a path leads to, if it leads anywhere. -/
def at? (fs : FileSystem) (path : String) : Option Entry := (fs.lookup path).toOption

def pathExists (fs : FileSystem) (path : String) : Bool := (fs.at? path).isSome

/-- Whether a path leads to a file, be it readable or not. -/
def isFile (fs : FileSystem) (path : String) : Bool := (fs.at? path).any Entry.isFile

def isDirectory (fs : FileSystem) (path : String) : Bool := (fs.at? path).any Entry.isDirectory

def readText (fs : FileSystem) (path : String) : Except FileError String := do
  match ← fs.lookup path with
  | .directory _ => throw .isDirectory
  | .unreadable reason => throw (.unreadable reason)
  | .file content =>
    match String.fromUTF8? content with
    | some text => return text
    | none => throw .notText

end FileSystem

end TemplateLint
