import TemplateLint.Lint.Diagnostic
import TemplateLint.Template.Source
import TemplateLint.Template.Walk

/-!
# Rules

A rule looks at every stop of the walk through a template and says what it finds there. Beside that it
has a description of itself and may be switched off.
-/

namespace TemplateLint

/-- What kind of mistakes a rule is about. -/
inductive RuleCategory where
  /-- Templates that do not do what they should. -/
  | correctness
  deriving DecidableEq, Repr, Inhabited

def RuleCategory.name : RuleCategory → String
  | correctness => "correctness"

/-- The description of a rule. -/
structure RuleInfo where
  id : String
  description : Option String := none
  severity : Severity := .error
  category : RuleCategory := .correctness
  exampleBad : Option String := none
  exampleGood : Option String := none
  notes : List String := []
  deriving DecidableEq, Repr

namespace RuleInfo

def read : Json.Reader RuleInfo := fun j => do
  let r ← Json.Record.find ⟨"RuleMeta", ["id"],
    ["description", "severity", "category", "example_bad", "example_good", "notes"]⟩ false j
  r.conclude <| RuleInfo.mk <$> r.required "id" Json.readText
    <*> r.optional "description" (Json.readOptional Json.readText) none
    <*> r.optional "severity" Severity.read .error
    <*> r.optional "category" (Json.readOneOf [("correctness", .correctness)]) .correctness
    <*> r.optional "example_bad" (Json.readOptional Json.readText) none
    <*> r.optional "example_good" (Json.readOptional Json.readText) none
    <*> r.optional "notes" (Json.readList Json.readText) []

def toJson (i : RuleInfo) : Json :=
  .object [("id", .string i.id), ("description", .optional i.description),
    ("severity", .string i.severity.name), ("category", .string i.category.name),
    ("example_bad", .optional i.exampleBad), ("example_good", .optional i.exampleGood),
    ("notes", .array (i.notes.map .string))]

end RuleInfo

/-- What a rule says about a place, before it is known which file the place is in. -/
structure Finding where
  message : String
  position : Position
  source : String
  deriving DecidableEq, Repr

structure Rule where
  info : RuleInfo
  enabled : Bool
  check : Source → Occurrence → List Finding

def Rule.id (r : Rule) : String := r.info.id

end TemplateLint
