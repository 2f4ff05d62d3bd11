import TemplateLint.Files.Path
import TemplateLint.Files.Tree
import TemplateLint.Json.Document
import TemplateLint.Template.Reader
import TemplateLint.Template.Source

/-!
# Template files

A template is stored as the JSON text of its tree. The text that it was made from may lie next to it:
for `index.hbs.json` and for `index.json` this is `index.hbs`.
-/

namespace TemplateLint

/-- Why a template cannot be loaded. -/
inductive LoadError where
  | io (e : FileError)
  | malformed (file : String)
  /-- The root has another type, or none. -/
  | notTemplate (file : String) (type : Option String)
  | mismatch (file : String) (m : Json.Mismatch)

def LoadError.message : LoadError → String
  | io e => "IO error: " ++ e.message
  | malformed file => invalid file Json.malformedMessage
  | notTemplate file (some type) => invalid file ("root node is " ++ type ++ ", not Template")
  | notTemplate file none => invalid file "root node has no Template type"
  | mismatch file m => invalid file m.message
where
  /-- The words for a file that holds no template. -/
  invalid (file message : String) : String := "Invalid template AST in " ++ file ++ ": " ++ message

namespace Template

/-- The template of the JSON text in a file. -/
def ofText (file text : String) : Except LoadError Template := do
  let some j := Json.parse? text | throw (.malformed file)
  match j.get? "type" with
  | some (.string "Template") => (Template.read j).mapError (.mismatch file)
  | some (.string type) => throw (.notTemplate file (some type))
  | _ => throw (.notTemplate file none)

/-- Where the text that a stored template was made from may lie: under the name without its extension,
if that is the name of such a text, or with another extension. -/
def sourceCandidates (path : String) : List String :=
  match Path.stem? path with
  | none => []
  | some stem =>
    let direct := Path.join ((Path.parent? path).getD "") stem
    (if Path.extension? direct = some "hbs" then [direct] else []) ++ [Path.withExtension path "hbs"]

end Template

namespace FileSystem

/-- The path of the text that a stored template was made from. -/
def sourcePath? (fs : FileSystem) (path : String) : Option String :=
  (Template.sourceCandidates path).find? fs.isFile

/-- Whether a file in a directory is taken for a stored template. -/
def isTemplatePath (fs : FileSystem) (path : String) : Bool :=
  Path.extension? path = some "json" &&
    ((Path.stem? path).bind Path.extension? = some "hbs" || (fs.sourcePath? path).isSome)

/-- The text that a stored template was made from, or no text when there is none. -/
def loadSource (fs : FileSystem) (path : String) : Except LoadError Source :=
  match fs.sourcePath? path with
  | none => .ok .empty
  | some source => ((fs.readText source).map .ofText).mapError .io

/-- The template that is stored in a file, with the text it was made from. -/
def loadTemplate (fs : FileSystem) (path : String) : Except LoadError (Template × Source) := do
  let text ← (fs.readText path).mapError .io
  let t ← Template.ofText path text
  return (t, ← fs.loadSource path)

end FileSystem

end TemplateLint
