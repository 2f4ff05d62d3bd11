import TemplateLint.Yaml.Scalar

/-!
# Tags and directives

A tag is a handle with a suffix. The handle stands for the start of the full tag, which the directives
of a document declare; an empty handle stands for nothing. Percent signs spell single bytes, which need
not make up a text, and a tag ends before a zero byte.
-/

namespace TemplateLint.Yaml

abbrev Tag := List UInt8

namespace Tag

def ofChars (cs : List Char) : Tag := cs.flatMap String.utf8EncodeChar

def ofString (s : String) : Tag := ofChars s.toList

/-- The tag up to a zero byte. -/
def untilZero (t : Tag) : Tag := t.takeWhile (· ≠ 0)

/-- Whether a document makes up the tag itself, which an exclamation mark at its start says. -/
def isLocal (t : Tag) : Bool := t.head? = some 0x21

/-- The name of a local tag, if its bytes are a text. -/
def localName? (t : Tag) : Option String :=
  if t.isLocal then String.fromUTF8? ⟨(t.drop 1).toArray⟩ else none

/-- The tag that asks for a kind of value. -/
def core (name : String) : Tag := ofString ("tag:yaml.org,2002:" ++ name)

end Tag

structure TagName where
  handle : String
  suffix : Tag
  deriving DecidableEq, Repr

/-- A line that says something about the document behind it. -/
inductive Directive where
  | version (major minor : Nat)
  | tagHandle (handle : String) (start : Tag)
  deriving DecidableEq, Repr

/-! ### Parts of tags -/

/-- The characters of a tag. A comma and brackets belong to it only where nothing else can be meant. -/
def isTagChar (anywhere : Bool) (c : Char) : Bool :=
  isNameChar c || ";/?:@&=+$.%!~*'()".toList.contains c ||
    anywhere && (c == ',' || c == '[' || c == ']')

/-- The byte of two hexadecimal digits behind a percent sign. -/
def percentByte? : List Char → Option (UInt8 × List Char)
  | '%' :: a :: b :: cs => do
    return (.ofNat (16 * (← hexDigit? a) + (← hexDigit? b)), cs)
  | _ => none

/-- How many bytes the character has that starts with a byte. -/
def byteCount? (b : UInt8) : Option Nat :=
  if b < 0x80 then some 1
  else if b &&& 0xe0 == 0xc0 then some 2
  else if b &&& 0xf0 == 0xe0 then some 3
  else if b &&& 0xf8 == 0xf0 then some 4
  else none

def percentBytes : (count : Nat) → List Char → Option (List UInt8 × List Char)
  | 0, cs => some ([], cs)
  | count + 1, cs => do
    let (b, cs) ← percentByte? cs
    if b &&& 0xc0 != 0x80 then failure
    let (bs, cs) ← percentBytes count cs
    return (b :: bs, cs)

/-- The bytes behind percent signs that have the form of one character. -/
def percentChar? (cs : List Char) : Option (List UInt8 × List Char) := do
  let (b, cs) ← percentByte? cs
  let (bs, rest) ← percentBytes ((← byteCount? b) - 1) cs
  return (b :: bs, rest)

/-- The bytes of a tag at the start of a text, at most `steps` characters of it, with the text behind
them. -/
def tagBytes (anywhere : Bool) : (steps : Nat) → List Char → Option (List UInt8 × List Char)
  | 0, cs => some ([], cs)
  | _, [] => some ([], [])
  | steps + 1, c :: cs =>
    if c == '%' then do
      let (bs, cs) ← percentChar? (c :: cs)
      let (more, rest) ← tagBytes anywhere steps cs
      return (bs ++ more, rest)
    else if isTagChar anywhere c then do
      let (more, rest) ← tagBytes anywhere steps cs
      return (Tag.ofChars [c] ++ more, rest)
    else some ([], c :: cs)

/-- The handle at the start of a text: an exclamation mark, and a name between two of them if there is
one. A name with no second mark is not part of a handle but starts a suffix. -/
def tagHandle? : List Char → Option (List Char × List Char)
  | '!' :: cs =>
    let name := cs.takeWhile isNameChar
    match cs.dropWhile isNameChar with
    | '!' :: rest => some ('!' :: name ++ ['!'], rest)
    | rest => some ('!' :: name, rest)
  | _ => none

namespace Cursor

/-- The part of a tag at a place. -/
def tagPart (anywhere : Bool) (c : Cursor) : Option (Tag × Cursor) :=
  (tagBytes anywhere c.rest.length c.rest).map fun (bs, rest) => (bs, c.moveTo rest)

/-! ### Tags -/

/-- A tag in full, between angle brackets. -/
def fullTag (c : Cursor) : Option (TagName × Cursor) := do
  let (suffix, c) ← (c.advance 2).tagPart true
  if suffix.isEmpty ∨ c.rest.head? ≠ some '>' then failure
  return (⟨"", suffix.untilZero⟩, c.advance 1)

def shortTag (c : Cursor) : Option (TagName × Cursor) := do
  let (handle, rest) ← tagHandle? c.rest
  let (suffix, c) ← (c.moveTo rest).tagPart false
  if handle.length ≠ 1 ∧ handle.getLast? = some '!' then
    if suffix.isEmpty then failure
    return (⟨String.ofList handle, suffix.untilZero⟩, c)
  let suffix := (Tag.ofChars (handle.drop 1) ++ suffix).untilZero
  return (if suffix.isEmpty then ⟨"", .ofString "!"⟩ else ⟨"!", suffix⟩, c)

/-- The tag at a place. A blank has to follow, or a comma in a flow collection. -/
def tag (inFlow : Bool) (c : Cursor) : Option (TagName × Cursor) := do
  let (name, c) ← if (c.rest.drop 1).head? = some '<' then c.fullTag else c.shortTag
  if endsWord c.rest ∨ inFlow ∧ c.rest.head? = some ',' then return (name, c) else failure

/-! ### Directives -/

/-- A number of at most nine digits. -/
def number (c : Cursor) : Option (Nat × Cursor) := do
  let digits := c.rest.takeWhile Char.isDigit
  if digits.isEmpty ∨ 9 < digits.length then failure
  return (digits.foldl (fun n d => 10 * n + (d.toNat - '0'.toNat)) 0, c.advance digits.length)

def version (c : Cursor) : Option (Directive × Cursor) := do
  let (major, c) ← (c.skipWhile isBlank).number
  if c.rest.head? ≠ some '.' then failure
  let (minor, c) ← (c.advance 1).number
  return (.version major minor, c)

/-- The handle that a directive declares, and what it stands for. -/
def tagDeclaration (c : Cursor) : Option (Directive × Cursor) := do
  let c := c.skipWhile isBlank
  let (handle, rest) ← tagHandle? c.rest
  if handle.length ≠ 1 ∧ handle.getLast? ≠ some '!' then failure
  let c := c.moveTo rest
  if ¬ c.rest.head?.any isBlank then failure
  let (start, c) ← (c.skipWhile isBlank).tagPart true
  if start.isEmpty ∨ !endsWord c.rest then failure
  return (.tagHandle (String.ofList handle) start.untilZero, c)

/-- The directive at a place, with the start of the next line. -/
def directive (c : Cursor) : Option (Directive × Cursor) := do
  let c := c.advance 1
  let name := c.rest.takeWhile isNameChar
  let c := c.advance name.length
  if !endsWord c.rest then failure
  let (d, c) ←
    if name = ['Y', 'A', 'M', 'L'] then c.version
    else if name = ['T', 'A', 'G'] then c.tagDeclaration
    else failure
  return (d, ← c.finishLine)

end Cursor

end TemplateLint.Yaml
