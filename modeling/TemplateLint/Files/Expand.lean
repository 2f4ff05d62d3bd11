import TemplateLint.Files.Path
import TemplateLint.Files.Tree
import TemplateLint.Files.Wildcard

/-!
# Paths that match a pattern

A pattern is expanded component by component, from the working directory or, when it is absolute, from
the root. A component without wildcards is followed as it is. One with wildcards stands for the entries
of the directory that match it, and `**` for everything below the directory. The components of the
paths that are found are spelled as in the pattern, except that a dot at the start is left out.
-/

namespace TemplateLint

/-- A component of a pattern. -/
inductive PatternStep where
  | literal (name : String)
  | wildcard (ws : List Wildcard)
  | anyDirectories
  deriving DecidableEq, Repr

namespace PatternStep

/-- The step of a component. -/
def ofWildcards (ws : List Wildcard) : PatternStep :=
  match Wildcard.literal? ws with
  | some name => literal (String.ofList name)
  | none => if ws = [.anyDirectories] then anyDirectories else wildcard ws

/-- Whether a step matches the name of an entry. -/
def isMatch (name : String) : PatternStep → Bool
  | literal s => s = name
  | wildcard ws => Wildcard.isMatch ws name
  | anyDirectories => true

/-- Steps in which `**` does not follow on `**`. -/
def collapse : List PatternStep → List PatternStep
  | anyDirectories :: steps =>
    match collapse steps with
    | anyDirectories :: more => anyDirectories :: more
    | more => anyDirectories :: more
  | step :: steps => step :: collapse steps
  | [] => []

end PatternStep

/-- An entry of a file system with the path that leads there. -/
structure Place where
  path : String
  entry : Entry

mutual

/-- Everything below an entry, a directory before its entries, each with its name. `path` makes the
paths of the entries. -/
def Entry.descendants (path : String → String) : Entry → List (String × Place)
  | .file _ | .unreadable _ => []
  | .directory entries => descendantsOf path entries

/-- Everything below a directory, entry by entry. -/
def descendantsOf (path : String → String) : List (String × Entry) → List (String × Place)
  | [] => []
  | (name, e) :: entries =>
    (name, ⟨path name, e⟩) :: e.descendants (Path.join (path name)) ++ descendantsOf path entries

end

namespace FileSystem

/-- Follows a component that has no wildcards. -/
def stepLiteral (fs : FileSystem) (p : Place) (name : String) : Option Place :=
  if (name = "." ∨ name = "..") ∧ p.entry.isFile then none
  else (fs.at? (Path.below p.path name)).map fun e => ⟨Path.below p.path name, e⟩

/-- The entries of a directory that match wildcards. A pattern that starts with a dot may also match the
directory itself and the one above. -/
def stepWildcard (fs : FileSystem) (p : Place) (ws : List Wildcard) : List Place :=
  let dots := if ws.head? = some (.char '.') ∧ p.entry.isDirectory then [".", ".."] else []
  let special := (dots.filter (Wildcard.isMatch ws)).filterMap fun name =>
    (fs.at? (Path.join p.path name)).map fun e => (⟨Path.join p.path name, e⟩ : Place)
  special ++ (p.entry.children.filter fun (name, _) => Wildcard.isMatch ws name).map fun (name, e) =>
    ⟨Path.below p.path name, e⟩

/-- The places that steps lead to from a place. -/
def expandFrom (fs : FileSystem) : List PatternStep → Place → List Place
  | [], p => [p]
  | .literal name :: steps, p => (fs.stepLiteral p name).toList.flatMap (fs.expandFrom steps)
  | .wildcard ws :: steps, p => (fs.stepWildcard p ws).flatMap (fs.expandFrom steps)
  | [.anyDirectories], p =>
    ((p.entry.descendants (Path.below p.path)).map (·.2)).filter (·.entry.isDirectory)
  | .anyDirectories :: step :: steps, p =>
    ((p.entry.descendants (Path.below p.path)).filter (step.isMatch ·.1)).flatMap fun (_, q) =>
      fs.expandFrom steps q

/-- The paths that match a pattern. A pattern with a slash at its end matches directories only. -/
def expand (fs : FileSystem) (pattern : String) : Except WildcardError (List String) := do
  let _ ← Wildcard.parse pattern
  let absolute := pattern.toList.head? = some '/'
  let body := if absolute then pattern.toList.drop 1 else pattern.toList
  let pieces := (Text.pieces '/' body).map String.ofList
  let pieces := if pieces.getLast? = some "" ∧ pieces.length ≠ 1 then pieces.dropLast else pieces
  let steps ← pieces.mapM fun piece => return .ofWildcards (← Wildcard.parse piece)
  let scope := if absolute then "/" else "."
  let places := (fs.at? scope).toList.flatMap fun e =>
    fs.expandFrom (PatternStep.collapse steps) ⟨scope, e⟩
  let places := if pattern.toList.getLast? = some '/' then
    places.filter (·.entry.isDirectory) else places
  return places.map (·.path)

end FileSystem

end TemplateLint
