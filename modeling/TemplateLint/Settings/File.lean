import TemplateLint.Files.Path
import TemplateLint.Files.Tree
import TemplateLint.Settings.FromJson
import TemplateLint.Settings.FromYaml

/-!
# Settings files

The extension of a settings file says in which notation it is written. Without a file to read, settings
are looked for under some names in the working directory and then in the user's own directory.
-/

namespace TemplateLint

/-- Why settings cannot be loaded. -/
inductive SettingsError where
  | io (e : FileError)
  | yaml
  | json (e : Json.TextError)
  /-- The extension stands for no notation. -/
  | unknownFormat (extension : String)
  deriving DecidableEq

/-- The wording of an error. -/
def SettingsError.message : SettingsError → String
  | io e => "IO error: " ++ e.message
  | yaml => "YAML parse error: " ++ Json.malformedMessage
  | json e => "JSON parse error: " ++ e.message
  | unknownFormat extension =>
    "Invalid configuration: Unknown config file format: " ++ extension

namespace Settings

/-- The settings of a text in the notation that a file extension stands for. -/
def ofText (extension text : String) : Except SettingsError Settings :=
  if extension = "yaml" ∨ extension = "yml" then
    match ofYaml? text with
    | some s => .ok s
    | none => .error .yaml
  else if extension = "json" then (ofJsonText text).mapError .json
  else .error (.unknownFormat extension)

/-- The settings in a file. -/
def load (fs : FileSystem) (path : String) : Except SettingsError Settings := do
  let text ← (fs.readText path).mapError .io
  ofText ((Path.extension? path).getD "") text

/-- The names under which settings are looked for. -/
def defaultNames : List String :=
  [".template-lintrc.yaml", ".template-lintrc.yml", ".template-lintrc.json", "header-lint.yaml",
    "header-lint.yml", "header-lint.json"]

/-- The paths under which settings are looked for. -/
def defaultPaths (fs : FileSystem) : List String :=
  defaultNames ++ fs.home.toList.flatMap fun home => defaultNames.map (Path.join home)

/-- The settings of the first file that is there. -/
def loadDefault (fs : FileSystem) : Except SettingsError Settings :=
  match (defaultPaths fs).find? fs.pathExists with
  | some path => load fs path
  | none => .ok {}

end Settings

end TemplateLint
