import TemplateLint.Json.Mismatch

/-!
# Reading structured data from JSON values

A structure is read from an object, whose members are its fields by name, or from an array, whose
items are its fields in the order of their declaration. Members that are no fields do not matter.

Of several faults the reader reports the first in the order of the value. A field that has to be
there and is not counts as a fault behind the last field that is. `Fields` collects what was read from
each field together with the faults, and `Record.conclude` picks the one to report.

A node kind is named by the member `type` of an object, or by the first item of an array. What else
the value holds are the fields of that kind. Values inside of such a node follow slightly different
rules, which `nested` stands for: a kind may then be given by its number, and an array with too many
items is described in other words.
-/

namespace TemplateLint.Json

abbrev Reader (α : Type) := Json → Except Mismatch α

/-! ### Plain values -/

def readText : Reader String
  | .string s => .ok s
  | j => .error (.wrongType j.shape "a string")

def readPath : Reader String
  | .string s => .ok s
  | j => .error (.wrongType j.shape "path string")

def readBool : Reader Bool
  | .bool b => .ok b
  | j => .error (.wrongType j.shape "a boolean")

/-- A natural number of 64 bits. -/
def readWord : Reader UInt64
  | .number (.int n) =>
    if 0 ≤ n then .ok (UInt64.ofNat n.toNat)
    else .error (.wrongValue (.number (.int n)) "usize")
  | j => .error (.wrongType j.shape "usize")

/-- Values of one kind in an array. -/
def readList (read : Reader α) : Reader (List α)
  | .array items => items.mapM read
  | j => .error (.wrongType j.shape "a sequence")

/-- A value that null stands in for. -/
def readOptional (read : Reader α) : Reader (Option α)
  | .null => .ok none
  | j => (read j).map some

/-- Values under the keys of an object. -/
def readMap (read : Reader α) : Reader (List (String × α))
  | .object members => members.mapM fun (k, j) => (read j).map (k, ·)
  | j => .error (.wrongType j.shape "a map")

/-- The choice of a name among several. -/
def choose (choices : List (String × α)) (s : String) : Except Mismatch α :=
  match choices.lookup s with
  | some a => .ok a
  | none => .error (.unknownVariant s (choices.map (·.1)))

/-- One of several named choices by its name. -/
def readChoice (choices : List (String × α)) : Reader α
  | .string s => choose choices s
  | j => .error (.wrongType j.shape "variant identifier")

/-- Nothing, which is written as null. -/
def readUnit : Reader Unit
  | .null => .ok ()
  | j => .error (.wrongType j.shape "unit")

/-- One of several named choices: its name as a text, or as the only key of an object whose value is
null. -/
def readOneOf (choices : List (String × α)) : Reader α
  | .string s => choose choices s
  | .object [(s, j)] => do
    let a ← choose choices s
    readUnit j
    return a
  | .object _ => .error (.wrongValue .mapping "map with a single key")
  | j => .error (.wrongType j.shape "string or map")

/-! ### Structures -/

/-- The fields of a structure: those that have to be there come first. -/
structure Declaration where
  name : String
  required : List String
  optional : List String

/-- All fields in the order of their declaration. -/
def Declaration.fields (d : Declaration) : List String := d.required ++ d.optional

/-- Where a value holds the fields of a structure. -/
structure Record where
  /-- The fields that are there, in the order in which they are read. -/
  present : List (String × Json)
  /-- The fault of an array of the wrong length, reported when all its items could be read. -/
  ending : Option Mismatch

/-- The words for an array with more than `count` items. -/
def tooLong (nested : Bool) (count : Nat) : String :=
  if nested then toString count ++ (if count = 1 then " element" else " elements") ++ " in sequence"
  else "fewer elements in array"

def Record.find (d : Declaration) (nested : Bool) : Reader Record
  | .object members => .ok ⟨members.filter (·.1 ∈ d.fields), none⟩
  | .array items =>
    let count := d.fields.length
    let ending :=
      if items.length < d.required.length then
        some (.wrongLength items.length
          ("struct " ++ d.name ++ " with " ++ toString count ++ " elements"))
      else if count < items.length then some (.wrongLength items.length (tooLong nested count))
      else none
    .ok ⟨d.fields.zip items, ending⟩
  | j => .error (.wrongType j.shape ("struct " ++ d.name))

/-- A field and why it could not be read. -/
abbrev Fault := String × Mismatch

/-- What was read from some fields of a structure, or the faults of those that could not be read, in
the order of declaration. -/
inductive Fields (α : Type) where
  | done (a : α)
  | faulty (first : Fault) (more : List Fault)

namespace Fields

instance : Functor Fields where
  map f
    | done a => done (f a)
    | faulty first more => faulty first more

instance : Applicative Fields where
  pure := done
  seq f r :=
    match f, r () with
    | done g, done a => done (g a)
    | done _, faulty first more => faulty first more
    | faulty first more, done _ => faulty first more
    | faulty first more, faulty second others => faulty first (more ++ second :: others)

/-- The outcome of reading one field that is there. -/
def ofExcept (key : String) : Except Mismatch α → Fields α
  | .ok a => done a
  | .error e => faulty (key, e) []

end Fields

namespace Record

def required (r : Record) (key : String) (read : Reader α) : Fields α :=
  match r.present.lookup key with
  | some j => .ofExcept key (read j)
  | none => .faulty (key, .missingField key) []

def optional (r : Record) (key : String) (read : Reader α) (default : α) : Fields α :=
  match r.present.lookup key with
  | some j => .ofExcept key (read j)
  | none => .done default

/-- The structure that was read. Otherwise the fault of the first field of the value that has one,
then the fault of the array's length, then the first field that is missing. -/
def conclude (r : Record) : Fields α → Except Mismatch α
  | .done a =>
    match r.ending with
    | none => .ok a
    | some fault => .error fault
  | .faulty first more =>
    match r.present.findSome? fun (key, _) => (first :: more).lookup key with
    | some fault => .error fault
    | none => .error (r.ending.getD first.2)

end Record

/-! ### Nodes of several kinds -/

/-- The name of a node's kind. Inside of another node its number among `kinds` will do, and a number
that is too large names no kind. -/
def readKind (kinds : List String) (nested : Bool) : Reader String
  | .string s => .ok s
  | .number (.int n) =>
    if nested ∧ 0 ≤ n then .ok ((kinds[n.toNat]?).getD "")
    else .error (.wrongType (.number (.int n)) "variant identifier")
  | j => .error (.wrongType j.shape "variant identifier")

/-- The kind of a node, and the value that holds the node's fields. -/
def readTagged (name : String) (kinds : List String) (nested : Bool) : Reader (String × Json)
  | .object members =>
    match members.lookup "type" with
    | none => .error (.missingField "type")
    | some tag => do
      return (← readKind kinds nested tag, .object (members.filter (·.1 ≠ "type")))
  | .array [] => .error (.missingField "type")
  | .array (tag :: items) => do return (← readKind kinds nested tag, .array items)
  | j => .error (.wrongType j.shape ("internally tagged enum " ++ name))

/-- A node of no known kind, whose members do not matter; in an array it stands alone. -/
def readUnknown (unknown : α) : Reader α
  | .array (_ :: items) => .error (.wrongLength (items.length + 1) (tooLong true 0))
  | _ => .ok unknown

end TemplateLint.Json
