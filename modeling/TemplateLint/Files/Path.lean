import TemplateLint.Text.Basic

/-!
# Paths

A path is a text, and slashes divide it into components. Repeated slashes, a slash at the end and a dot
between slashes make no difference. Two paths are the same when their components are, and paths are
ordered by their components.

The last component is the name of the file, unless it is a dot or two. The part of the name after its
last dot is the extension, and the part before is the stem; a dot at the start of a name does not
count.
-/

namespace TemplateLint

inductive Component where
  /-- The slash at the start of an absolute path. -/
  | root
  /-- The dot at the start of a relative path. -/
  | current
  /-- Two dots. -/
  | parent
  | name (s : String)
  deriving DecidableEq, Repr

namespace Component

/-- The kinds of components in their order, with the name that orders components of one kind. -/
def key : Component → Nat × String
  | root => (0, "")
  | current => (1, "")
  | parent => (2, "")
  | name s => (3, s)

instance : Ord Component := ⟨fun a b => (compare a.key.1 b.key.1).then (compare a.key.2 b.key.2)⟩

/-- The component that a piece of a path behind its first slash is. -/
def ofPiece? (s : String) : Option Component :=
  if s = "" ∨ s = "." then none else if s = ".." then some parent else some (name s)

/-- The component that the first piece of a path is; `absolute` says that a slash follows it. -/
def ofHead? (absolute : Bool) (s : String) : Option Component :=
  if s = "" then (if absolute then some root else none)
  else if s = "." then some current
  else ofPiece? s

end Component

namespace Path

/-- The pieces of a path between its slashes. The first of them stands apart. -/
def headAndTail (path : String) : String × List String :=
  match Text.split '/' path with
  | [] => ("", [])
  | piece :: pieces => (piece, pieces)

def components (path : String) : List Component :=
  let (first, pieces) := headAndTail path
  (Component.ofHead? (!pieces.isEmpty) first).toList ++ pieces.filterMap Component.ofPiece?

def order (p q : String) : Ordering := compare (components p) (components q)

def same (p q : String) : Bool := order p q == .eq

/-! ### Names -/

/-- Whether a piece behind the first slash makes no difference. -/
def isVoid (piece : String) : Bool := piece = "" || piece = "."

/-- The text before the last component and that component's piece. The text is given by its pieces, and
there is none when the path has no piece but a root. -/
def splitLast (path : String) : Option (List String × String) :=
  let (first, pieces) := headAndTail path
  match pieces.reverse.dropWhile isVoid with
  | last :: before => some (first :: before.reverse, last)
  | [] => if first = "" then none else some ([], first)

/-- The name of the file that a path leads to. -/
def fileName? (path : String) : Option String :=
  (splitLast path).bind fun (_, last) => if last = "." ∨ last = ".." then none else some last

/-- A file name without its extension, and the extension if there is one. -/
def splitExtension (name : String) : String × Option String :=
  let behind := name.toList.reverse.takeWhile (· ≠ '.')
  match name.toList.reverse.dropWhile (· ≠ '.') with
  | [] => (name, none)
  | [_] => (name, none)
  | _ :: before => (String.ofList before.reverse, some (String.ofList behind.reverse))

def stem? (path : String) : Option String := (fileName? path).map fun n => (splitExtension n).1

def extension? (path : String) : Option String :=
  (fileName? path).bind fun n => (splitExtension n).2

/-! ### Other paths -/

/-- Pieces without those at the end that make no difference. The first piece stays. -/
def trimPieces : List String → List String
  | [] => []
  | first :: pieces => first :: (pieces.reverse.dropWhile isVoid).reverse

/-- The text of a path with given pieces. An empty first piece stands for a root. -/
def ofPieces : List String → String
  | [] => ""
  | [""] => "/"
  | pieces => "/".intercalate pieces

/-- The directory that a path leads through last. -/
def parent? (path : String) : Option String :=
  (splitLast path).map fun (before, _) => ofPieces (trimPieces before)

def join (path name : String) : String :=
  if path = "" then name
  else if path.toList.getLast? = some '/' then path ++ name
  else path ++ "/" ++ name

/-- The path of an entry of a directory. Names in the working directory stand alone. -/
def below (path name : String) : String :=
  if components path = [.current] then name else join path name

/-- The path with an extension of the file name, in place of one that it may have. A path without a
file name stays as it is. -/
def setExtension (path extension : String) : String :=
  match splitLast path, stem? path with
  | some (before, _), some stem => "/".intercalate (before ++ [stem ++ "." ++ extension])
  | _, _ => path

/-- The text of a path, cut at its end by the length of the extension. -/
def dropExtension (path : String) : String :=
  match extension? path with
  | some e => String.ofList (path.toList.take (path.length - e.length))
  | none => path

/-- The path with another extension. The old one is cut off first, and what is left of `..json` has no
file name. -/
def withExtension (path extension : String) : String := setExtension (dropExtension path) extension

end Path

end TemplateLint
