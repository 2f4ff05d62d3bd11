/-!
# JSON values

A value as the tools that write templates and settings exchange it. An object is a list of members;
values that were read from a text have their members in increasing key order, each key once. A number
is an integer when it was written as one and fits into 64 bits, and a double otherwise.
-/

namespace TemplateLint

/-- A JSON number: an integer that fits into a signed or an unsigned 64-bit word, or a double. -/
inductive Json.Number where
  | int (n : Int)
  | float (x : Float)
  deriving DecidableEq

inductive Json where
  | null
  | bool (b : Bool)
  | number (n : Json.Number)
  | string (s : String)
  | array (items : List Json)
  | object (members : List (String × Json))

namespace Json

/-- The members of an object; any other value has none. -/
def members : Json → List (String × Json)
  | object ms => ms
  | _ => []

def get? (key : String) (j : Json) : Option Json := j.members.lookup key

/-- The number of a natural number. -/
def nat (n : Nat) : Json := .number (.int n)

/-- A text, or null when there is none. -/
def optional : Option String → Json
  | some s => .string s
  | none => .null

/-! ### Levels of nesting -/

mutual

/-- How many arrays and objects stand inside one another at the deepest point of a value. Plain values
have depth zero. -/
def depth : Json → Nat
  | array items => depthItems items + 1
  | object members => depthMembers members + 1
  | _ => 0

def depthItems : List Json → Nat
  | [] => 0
  | j :: js => max j.depth (depthItems js)

def depthMembers : List (String × Json) → Nat
  | [] => 0
  | (_, j) :: ms => max j.depth (depthMembers ms)

end

/-! ### Members in key order -/

/-- Puts a member in its place among members in increasing key order. It takes the place of a member
of the same key. -/
def insertMember (key : String) (value : α) : List (String × α) → List (String × α)
  | [] => [(key, value)]
  | (k, v) :: ms =>
    if key < k then (key, value) :: (k, v) :: ms
    else if key = k then (key, value) :: ms
    else (k, v) :: insertMember key value ms

/-- Members in increasing key order, each key once: of several members with one key the last
counts. -/
def sortMembers (ms : List (String × α)) : List (String × α) :=
  ms.foldl (fun sorted m => insertMember m.1 m.2 sorted) []

mutual

/-- The same value with the members of every object in increasing key order. -/
def sorted : Json → Json
  | array items => array (sortedItems items)
  | object members => object (sortMembers (sortedMembers members))
  | j => j

/-- Every item of an array in sorted form. -/
def sortedItems : List Json → List Json
  | [] => []
  | j :: js => j.sorted :: sortedItems js

/-- Every member of an object in sorted form, in the order given. -/
def sortedMembers : List (String × Json) → List (String × Json)
  | [] => []
  | (k, j) :: ms => (k, j.sorted) :: sortedMembers ms

end

end Json

end TemplateLint
