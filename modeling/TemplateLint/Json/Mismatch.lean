import TemplateLint.Text.Quoted
import TemplateLint.Json.Number

/-!
# Values that do not fit

A `Mismatch` says why a JSON value is not of the form that a reader wants, and `Mismatch.message` is
its wording.
-/

namespace TemplateLint.Json

/-- What a message says about a value that was found. -/
inductive Shape where
  | null
  | boolean (b : Bool)
  | number (n : Number)
  | text (s : String)
  | sequence
  | mapping
  deriving DecidableEq

/-- The shape of a value. -/
def shape : Json → Shape
  | .null => .null
  | .bool b => .boolean b
  | .number n => .number n
  | .string s => .text s
  | .array _ => .sequence
  | .object _ => .mapping

/-- A shape in the words of a message. -/
def Shape.describe : Shape → String
  | .null => "null"
  | .boolean b => "boolean `" ++ (if b then "true" else "false") ++ "`"
  | .number (.int n) => "integer `" ++ intText n ++ "`"
  | .number (.float x) => "floating point `" ++ floatText x ++ "`"
  | .text s => "string " ++ Text.quoted s
  | .sequence => "sequence"
  | .mapping => "map"

/-- Why a value is not of the form that a reader wants. -/
inductive Mismatch where
  | missingField (name : String)
  | duplicateField (name : String)
  | wrongType (found : Shape) (expected : String)
  | wrongValue (found : Shape) (expected : String)
  | wrongLength (found : Nat) (expected : String)
  | unknownVariant (found : String) (expected : List String)
  deriving DecidableEq

/-- A list of alternatives in the words of a message. -/
def alternatives (names : List String) : String :=
  match names.map fun n => "`" ++ n ++ "`" with
  | [a] => a
  | [a, b] => a ++ " or " ++ b
  | all => "one of " ++ ", ".intercalate all

/-- The wording of a mismatch. -/
def Mismatch.message : Mismatch → String
  | .missingField name => "missing field `" ++ name ++ "`"
  | .duplicateField name => "duplicate field `" ++ name ++ "`"
  | .wrongType found expected =>
    "invalid type: " ++ found.describe ++ ", expected " ++ expected
  | .wrongValue found expected =>
    "invalid value: " ++ found.describe ++ ", expected " ++ expected
  | .wrongLength found expected =>
    "invalid length " ++ toString found ++ ", expected " ++ expected
  | .unknownVariant found expected =>
    "unknown variant `" ++ found ++ "`, expected " ++ alternatives expected

end TemplateLint.Json
