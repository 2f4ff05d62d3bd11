import TemplateLint.Json.Number

/-!
# JSON values as text

Two forms of one value: `compact` without any blanks, and `pretty` with two blanks of indentation for
every level. Quotes, backslashes and controls are escaped in strings, and nothing else is.
-/

namespace TemplateLint.Json

def hexDigit (n : Nat) : Char := Nat.digitChar (n % 16)

/-- One character as it stands inside a JSON string. -/
def escapeChar (c : Char) : List Char :=
  match c with
  | '"' => ['\\', '"']
  | '\\' => ['\\', '\\']
  | '\n' => ['\\', 'n']
  | '\r' => ['\\', 'r']
  | '\t' => ['\\', 't']
  | '\x08' => ['\\', 'b']
  | '\x0c' => ['\\', 'f']
  | c =>
    if c.toNat < 0x20 then ['\\', 'u', '0', '0', hexDigit (c.toNat / 16), hexDigit c.toNat]
    else [c]

def stringText (s : String) : List Char := '"' :: s.toList.flatMap escapeChar ++ ['"']

/-! ### Without blanks -/

mutual

/-- A value without any blanks. -/
def compactChars : Json → List Char
  | .null => "null".toList
  | .bool true => "true".toList
  | .bool false => "false".toList
  | .number n => n.text.toList
  | .string s => stringText s
  | .array [] => ['[', ']']
  | .array (j :: js) => '[' :: j.compactChars ++ compactItems js ++ [']']
  | .object [] => ['\x7b', '\x7d']
  | .object ((k, j) :: ms) =>
    '\x7b' :: stringText k ++ ':' :: j.compactChars ++ compactMembers ms ++ ['\x7d']

/-- The items of an array after the first, each behind a comma. -/
def compactItems : List Json → List Char
  | [] => []
  | j :: js => ',' :: j.compactChars ++ compactItems js

/-- The members of an object after the first, each behind a comma. -/
def compactMembers : List (String × Json) → List Char
  | [] => []
  | (k, j) :: ms => ',' :: stringText k ++ ':' :: j.compactChars ++ compactMembers ms

end

/-- A value on one line, without blanks. -/
def compact (j : Json) : String := String.ofList j.compactChars

/-! ### With indentation -/

/-- A line break and the indentation of a level. -/
def newline (level : Nat) : List Char := '\n' :: List.replicate (2 * level) ' '

mutual

/-- A value with two blanks of indentation for every level. -/
def prettyChars (level : Nat) : Json → List Char
  | .array [] => ['[', ']']
  | .array (j :: js) =>
    '[' :: newline (level + 1) ++ j.prettyChars (level + 1) ++ prettyItems (level + 1) js ++
      newline level ++ [']']
  | .object [] => ['\x7b', '\x7d']
  | .object ((k, j) :: ms) =>
    '\x7b' :: newline (level + 1) ++ stringText k ++ ':' :: ' ' :: j.prettyChars (level + 1) ++
      prettyMembers (level + 1) ms ++ newline level ++ ['\x7d']
  | .null => "null".toList
  | .bool true => "true".toList
  | .bool false => "false".toList
  | .number n => n.text.toList
  | .string s => stringText s

/-- The items of an array after the first, each on a line of its own. -/
def prettyItems (level : Nat) : List Json → List Char
  | [] => []
  | j :: js => ',' :: newline level ++ j.prettyChars level ++ prettyItems level js

/-- The members of an object after the first, each on a line of its own. -/
def prettyMembers (level : Nat) : List (String × Json) → List Char
  | [] => []
  | (k, j) :: ms =>
    ',' :: newline level ++ stringText k ++ ':' :: ' ' :: j.prettyChars level ++
      prettyMembers level ms

end

/-- A value over several lines, with two blanks of indentation for every level. -/
def pretty (j : Json) : String := String.ofList (j.prettyChars 0)

end TemplateLint.Json
