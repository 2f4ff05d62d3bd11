import TemplateLint.Decimal
import TemplateLint.Json.Number

/-!
# Values that rules are set to

A rule is switched on or off by a truth value, and a rule that is not mentioned is off. Any other value
is refused with a message that quotes it: a text without quotes, the items of an array with commas
between them, and no details of an object.
-/

namespace TemplateLint

namespace Json

/-- A number in a quoted value. A double without a fraction is written without one. -/
def Number.display : Number → String
  | .int n => intText n
  | .float x =>
    if x == 0 then "0"
    else if x.floor == x && x.abs < 1e21 then Decimal.fixed 0 x
    else floatText x

mutual

/-- A value as a message quotes it. -/
def display : Json → String
  | .null => "null"
  | .bool b => if b then "true" else "false"
  | .number n => n.display
  | .string s => s
  | .array items => ",".intercalate (displayItems items)
  | .object _ => "[object Object]"

/-- The items of an array as a message quotes them. Null leaves its place empty. -/
def displayItems : List Json → List String
  | [] => []
  | .null :: items => "" :: displayItems items
  | item :: items => item.display :: displayItems items

end

end Json

/-- A rule was set to something other than a truth value. -/
structure RuleValueError where
  rule : String
  value : String
  deriving DecidableEq, Repr

/-- The wording of the error. -/
def RuleValueError.message (e : RuleValueError) : String :=
  "The " ++ e.rule ++ " rule accepts a boolean value.\n  * boolean - 'true' to enable\n" ++
    "You specified '" ++ e.value ++ "'"

/-- Whether a rule is switched on by the value that it is set to. -/
def readSwitch (rule : String) : Option Json → Except RuleValueError Bool
  | none => .ok false
  | some (.bool b) => .ok b
  | some j => .error ⟨rule, j.display⟩

end TemplateLint
