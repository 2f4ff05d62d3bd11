import TemplateLint.Json.Document
import TemplateLint.Json.Record
import TemplateLint.Settings.Decoder

/-!
# Settings in JSON

Settings are read from a JSON value, or from a text while it is read. Both take a structure from an
object or from an array. They differ in which fault of several is reported: that of the first member in
key order from a value, and that of the first place from a text, be it JSON or not. A text may not have
a field twice, and what it holds beside the fields has to be JSON but nothing more.
-/

namespace TemplateLint

namespace Json

/-! ### Values -/

def readRecord (name : String) (fields : List (Field (Except Mismatch) Json σ)) (init : σ) :
    Reader σ
  | .object members =>
    members.foldlM (fun s (key, j) =>
      match fields.lookup key with
      | some set => set s j
      | none => return s) init
  | .array items => do
    let s ← (fields.zip items).foldlM (fun s ((_, set), j) => set s j) init
    if fields.length < items.length then
      throw (.wrongLength items.length (tooLong false fields.length))
    return s
  | j => .error (.wrongType j.shape ("struct " ++ name))

def decoder : Decoder (Except Mismatch) Json where
  bool := readBool
  word := readWord
  text := readText
  json := .ok
  oneOf := readOneOf
  list := readList
  map := readMap
  record := readRecord

/-! ### Texts -/

/-- A document, and how many levels it may have. -/
structure Fragment where
  document : Document
  levels : Nat

namespace Fragment

/-- The parts of a fragment have one level less. -/
def part (f : Fragment) (d : Document) : Fragment := ⟨d, f.levels - 1⟩

/-- The error that a document of this shape is not what is wanted. -/
def mismatch (f : Fragment) (expected : String) : TextError :=
  match f.document.shape? with
  | some shape => .mismatch (.wrongType shape expected)
  | none => .malformed

def readPlain (read : Reader α) (f : Fragment) (expected : String) : Except TextError α :=
  match f.document.value? 0 with
  | some j => (read j).mapError .mismatch
  | none => .error (f.mismatch expected)

def readAny (f : Fragment) : Except TextError Json :=
  match f.document.value? f.levels with
  | some j => .ok j
  | none => .error .malformed

/-- Reads one of several named choices. -/
def readOneOf (choices : List (String × α)) (f : Fragment) : Except TextError α :=
  match f.document with
  | .string _ => choice f.document
  | .object ((key, d) :: more) => do
    let a ← choice key
    (f.part d).readPlain readUnit "unit"
    if more.isEmpty then return a else throw .malformed
  | _ => .error .malformed
where
  /-- The choice that a string names. -/
  choice (d : Document) : Except TextError α := do
    let some name := d.key? | throw .malformed
    (choose choices name).mapError .mismatch

def readList (read : Fragment → Except TextError α) (f : Fragment) : Except TextError (List α) :=
  match f.document with
  | .array items => items.mapM fun d => read (f.part d)
  | _ => .error (f.mismatch "a sequence")

def readMap (read : Fragment → Except TextError α) (f : Fragment) :
    Except TextError (List (String × α)) :=
  match f.document with
  | .object members =>
    members.foldlM (fun found (key, d) => do
      let some key := key.key? | throw .malformed
      return insertMember key (← read (f.part d)) found) []
  | _ => .error (f.mismatch "a map")

/-- Reads the members of a structure one after the other. `seen` are the fields
that were there before. -/
def readMembers (fields : List (Field (Except TextError) Fragment σ)) (f : Fragment) :
    (seen : List String) → List (Document × Document) → σ → Except TextError σ
  | _, [], s => .ok s
  | seen, (key, d) :: more, s => do
    let some key := key.key? | throw .malformed
    match fields.lookup key with
    | some set =>
      if key ∈ seen then throw (.mismatch (.duplicateField key))
      readMembers fields f (key :: seen) more (← set s (f.part d))
    | none => if d.isWhole then readMembers fields f seen more s else throw .malformed

def readRecord (name : String) (fields : List (Field (Except TextError) Fragment σ)) (init : σ)
    (f : Fragment) : Except TextError σ :=
  match f.document with
  | .object members => readMembers fields f [] members init
  | .array items => do
    let s ← (fields.zip items).foldlM (fun s ((_, set), d) => set s (f.part d)) init
    if fields.length < items.length then throw .malformed
    return s
  | _ => .error (f.mismatch ("struct " ++ name))

def decoder : Decoder (Except TextError) Fragment where
  bool f := f.readPlain readBool "a boolean"
  word f := f.readPlain readWord "usize"
  text f := f.readPlain readText "a string"
  json := readAny
  oneOf := readOneOf
  list := readList
  map := readMap
  record := readRecord

end Fragment

end Json

namespace Settings

def ofJson : Json.Reader Settings := decode Json.decoder

def ofJsonText (text : String) : Except Json.TextError Settings := do
  let (document, rest) := Json.Document.read text.toList
  let s ← decode Json.Fragment.decoder ⟨document, Json.maxDepth⟩
  match rest with
  | some rest => if (Json.skipBlanks rest).isEmpty then return s else throw .malformed
  | none => throw .malformed

end Settings

end TemplateLint
