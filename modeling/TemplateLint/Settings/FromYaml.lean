import TemplateLint.Settings.Decoder
import TemplateLint.Yaml.Value

/-!
# Settings in YAML

Settings are one document. A structure, a map or a list that is left empty has nothing in it, whereas
null is none of them. Every scalar is a text, also one that looks like something else. What a structure
holds beside its fields is not looked at.
-/

namespace TemplateLint

namespace Yaml

/-- A node of a document, and how deep it may be. -/
structure Fragment where
  document : Document
  node : Node
  levels : Nat

namespace Fragment

/-- The parts of a fragment have one level less. -/
def part (f : Fragment) (n : Node) : Fragment := { f with node := n, levels := f.levels - 1 }

/-- The node of a fragment, behind an alias. -/
def target (f : Fragment) : Follow Node := f.document.follow f.node

/-- Whether a node is left empty. -/
def isLeftEmpty : Node → Bool
  | .scalar _ style text => style = .plain && text = ""
  | _ => false

/-- The text of a scalar that may stand for a value other than a text. -/
def plainText (kind : String) (f : Fragment) : Follow String := do
  match ← f.target with
  | .scalar tag style text =>
    if style = .plain ∨ style = .literal ∧ tag = some (.core kind) then return text else failure
  | _ => failure

def readBool (f : Fragment) : Follow Bool := do bool? (← f.plainText "bool")

/-- Reads a natural number, which has no minus sign. -/
def readWord (f : Fragment) : Follow UInt64 := do
  let n ← unsigned? (← f.plainText "int")
  if n < Decimal.twoTo 64 then return .ofNat n else failure

/-- Reads one of several named choices: its name, or its name as the tag of nothing. -/
def readOneOf (choices : List (String × α)) (f : Fragment) : Follow α := do
  match ← f.target with
  | .scalar tag style text =>
    match tag.bind Tag.localName? with
    | some name =>
      if style = .plain ∧ (text = "" ∨ isNull text) then choices.lookup name else failure
    | none => choices.lookup text
  | _ => failure

def readList (read : Fragment → Follow α) (f : Fragment) : Follow (List α) := do
  match ← f.target with
  | .sequence _ items =>
    if f.levels = 0 then failure
    items.mapM fun n => read (f.part n)
  | n => if isLeftEmpty n then return [] else failure

def pairs (f : Fragment) : Follow (List (Node × Node)) := do
  match ← f.target with
  | .mapping _ pairs => if f.levels = 0 then failure else return pairs
  | n => if isLeftEmpty n then return [] else failure

def readMap (read : Fragment → Follow α) (f : Fragment) : Follow (List (String × α)) := do
  (← f.pairs).foldlM (fun found (k, v) => do
    return Json.insertMember (← f.document.text k) (← read (f.part v)) found) []

/-- Reads the fields of a structure one after the other. `seen` are the fields that were there
before. -/
def readFields (fields : List (Field Follow Fragment σ)) (f : Fragment) :
    (seen : List String) → List (Node × Node) → σ → Follow σ
  | _, [], s => return s
  | seen, (k, v) :: more, s => do
    let key ← f.document.text k
    match fields.lookup key with
    | some set =>
      if key ∈ seen then failure
      readFields fields f (key :: seen) more (← set s (f.part v))
    | none => readFields fields f seen more s

def readRecord (fields : List (Field Follow Fragment σ)) (init : σ) (f : Fragment) : Follow σ := do
  readFields fields f [] (← f.pairs) init

def decoder : Decoder Follow Fragment where
  bool := readBool
  word := readWord
  text f := f.document.text f.node
  json f := f.document.value f.levels f.node
  oneOf := readOneOf
  list := readList
  map := readMap
  record _ := readRecord

end Fragment

/-- How deep a document may be. -/
def maxDepth : Nat := 128

end Yaml

def Settings.ofYaml? (text : String) : Option Settings := do
  match ← Yaml.documents? text with
  | [] => return {}
  | [d] => d.run (decode Yaml.Fragment.decoder ⟨d, d.root, Yaml.maxDepth⟩)
  | _ => failure

end TemplateLint
