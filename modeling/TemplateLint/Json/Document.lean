import TemplateLint.Json.Mismatch

/-!
# JSON texts

`Document.read` turns a text into a document from left to right. It never fails: where the text stops
being JSON the document says `broken`, and everything before that place is kept. So a reader that
goes through a document in order meets the faults of the text in the order in which they stand there.

`Json.parse?` is the value of a text without faults. A value may be at most 127 levels deep, its
numbers have to be within the range of a double, and its strings have to be sequences of characters,
which a lone half of a surrogate pair is not. A document keeps what violates these rules, since they
bind only where the value is used.
-/

namespace TemplateLint.Json

/-- What a text holds, up to the first place that is not JSON. -/
inductive Document where
  | null
  | bool (b : Bool)
  | number (l : Literal)
  /-- A string, or nothing when its escapes spell no sequence of characters. -/
  | string (s : Option String)
  | array (items : List Document)
  /-- Keys with values. Behind a key that is no string the text is broken. -/
  | object (members : List (Document × Document))
  /-- The text is not JSON from here on. -/
  | broken

/-! ### Lexical parts -/

/-- The blanks of JSON. -/
def isBlank (c : Char) : Bool := c == ' ' || c == '\n' || c == '\r' || c == '\t'

def skipBlanks (cs : List Char) : List Char := cs.dropWhile isBlank

def hexValue? (c : Char) : Option Nat :=
  if '0' ≤ c ∧ c ≤ '9' then some (c.toNat - '0'.toNat)
  else if 'a' ≤ c ∧ c ≤ 'f' then some (c.toNat - 'a'.toNat + 10)
  else if 'A' ≤ c ∧ c ≤ 'F' then some (c.toNat - 'A'.toNat + 10)
  else none

/-- The number that four hexadecimal digits spell. -/
def hexWord? (a b c d : Char) : Option Nat := do
  return (((← hexValue? a) * 16 + (← hexValue? b)) * 16 + (← hexValue? c)) * 16 + (← hexValue? d)

/-- The rest of a string after its opening quote: its code points up to the closing quote, and the
text behind it. Halves of surrogate pairs stand as they were written. -/
def readString : List Char → Option (List Nat × List Char)
  | [] => none
  | '"' :: cs => some ([], cs)
  | '\\' :: 'u' :: a :: b :: c :: d :: cs =>
    match hexWord? a b c d, readString cs with
    | some n, some (ns, rest) => some (n :: ns, rest)
    | _, _ => none
  | '\\' :: e :: cs =>
    let escaped : Option Char := match e with
      | '"' => some '"'
      | '\\' => some '\\'
      | '/' => some '/'
      | 'b' => some '\x08'
      | 'f' => some '\x0c'
      | 'n' => some '\n'
      | 'r' => some '\r'
      | 't' => some '\t'
      | _ => none
    match escaped, readString cs with
    | some c, some (ns, rest) => some (c.toNat :: ns, rest)
    | _, _ => none
  | c :: cs =>
    if c.toNat < 0x20 || c == '\\' then none
    else (readString cs).map fun (ns, rest) => (c.toNat :: ns, rest)

/-- Whether a code point is the first half of a surrogate pair. -/
def isLeading (n : Nat) : Bool := 0xd800 ≤ n && n < 0xdc00

/-- Whether a code point is the second half of a surrogate pair. -/
def isTrailing (n : Nat) : Bool := 0xdc00 ≤ n && n < 0xe000

/-- The characters of a list of code points, in which surrogate pairs stand for one character
each. -/
def joinSurrogates : List Nat → Option (List Char)
  | [] => some []
  | n :: m :: rest =>
    if isLeading n then
      if isTrailing m then
        (joinSurrogates rest).map (Char.ofNat (0x10000 + (n - 0xd800) * 0x400 + (m - 0xdc00)) :: ·)
      else none
    else if isTrailing n then none
    else (joinSurrogates (m :: rest)).map (Char.ofNat n :: ·)
  | [n] => if isLeading n || isTrailing n then none else some [Char.ofNat n]

/-- Digits at the start of a text, at least one, and the text behind them. -/
def readDigits (cs : List Char) : Option (List Char × List Char) :=
  match cs.takeWhile Char.isDigit with
  | [] => none
  | ds => some (ds, cs.dropWhile Char.isDigit)

/-- The digits before the point: a zero, or digits that do not start with one. -/
def readWhole : List Char → Option (List Char × List Char)
  | '0' :: cs =>
    match cs with
    | [] => some (['0'], [])
    | c :: _ => if c.isDigit then none else some (['0'], cs)
  | cs => readDigits cs

/-- The point and the digits behind it, if there is a point. -/
def readFraction : List Char → Option (Option (List Char) × List Char)
  | '.' :: cs => (readDigits cs).map fun (ds, rest) => (some ds, rest)
  | cs => some (none, cs)

def readSign : List Char → Bool × List Char
  | '-' :: cs => (true, cs)
  | '+' :: cs => (false, cs)
  | cs => (false, cs)

/-- The exponent, if there is one. -/
def readExponent : List Char → Option (Option (Bool × List Char) × List Char)
  | 'e' :: cs => exponent cs
  | 'E' :: cs => exponent cs
  | cs => some (none, cs)
where
  exponent (cs : List Char) : Option (Option (Bool × List Char) × List Char) :=
    let (negative, cs) := readSign cs
    (readDigits cs).map fun (ds, rest) => (some (negative, ds), rest)

/-- A number at the start of a text, its sign taken off already. -/
def readLiteral (negative : Bool) (cs : List Char) : Option (Literal × List Char) := do
  let (whole, cs) ← readWhole cs
  let (fraction, cs) ← readFraction cs
  let (exponent, cs) ← readExponent cs
  return (⟨negative, whole, fraction, exponent⟩, cs)

/-! ### Documents -/

namespace Document

/-- A document made of the outcome of reading one lexical part. -/
def ofPart (make : α → Document) : Option (α × List Char) → Document × Option (List Char)
  | some (a, rest) => (make a, some rest)
  | none => (broken, none)

/-- The string of a list of code points. -/
def ofCodes (ns : List Nat) : Option String := (joinSurrogates ns).map String.ofList

mutual

/-- A value at the start of a text, and the text behind it if the value is whole. Every level of a
value takes a character, so the number of characters bounds the number of steps. -/
def readValue : (steps : Nat) → List Char → Document × Option (List Char)
  | 0, _ => (broken, none)
  | steps + 1, cs =>
    match skipBlanks cs with
    | 'n' :: 'u' :: 'l' :: 'l' :: rest => (null, some rest)
    | 't' :: 'r' :: 'u' :: 'e' :: rest => (bool true, some rest)
    | 'f' :: 'a' :: 'l' :: 's' :: 'e' :: rest => (bool false, some rest)
    | '"' :: rest => ofPart (fun ns => string (ofCodes ns)) (readString rest)
    | '-' :: rest => ofPart number (readLiteral true rest)
    | '[' :: rest =>
      match skipBlanks rest with
      | ']' :: rest => (array [], some rest)
      | rest =>
        let (items, left) := readItems steps rest
        (array items, left)
    | '\x7b' :: rest =>
      match skipBlanks rest with
      | '\x7d' :: rest => (object [], some rest)
      | rest =>
        let (members, left) := readMembers steps rest
        (object members, left)
    | rest => ofPart number (readLiteral false rest)

/-- The items of an array that has at least one, up to its closing bracket. -/
def readItems : (steps : Nat) → List Char → List Document × Option (List Char)
  | 0, _ => ([broken], none)
  | steps + 1, cs =>
    match readValue steps cs with
    | (d, none) => ([d], none)
    | (d, some rest) =>
      match skipBlanks rest with
      | ']' :: rest => ([d], some rest)
      | ',' :: rest =>
        let (ds, left) := readItems steps rest
        (d :: ds, left)
      | _ => ([d, broken], none)

/-- The members of an object that has at least one, up to its closing brace. A member whose key was
read but not its value has a broken value. -/
def readMembers : (steps : Nat) → List Char → List (Document × Document) × Option (List Char)
  | 0, _ => ([(broken, broken)], none)
  | steps + 1, cs =>
    match readValue steps cs with
    | (string key, some rest) =>
      match skipBlanks rest with
      | ':' :: rest =>
        match readValue steps rest with
        | (d, none) => ([(string key, d)], none)
        | (d, some rest) =>
          match skipBlanks rest with
          | '\x7d' :: rest => ([(string key, d)], some rest)
          | ',' :: rest =>
            let (ms, left) := readMembers steps rest
            ((string key, d) :: ms, left)
          | _ => ([(string key, d), (broken, broken)], none)
      | _ => ([(string key, broken)], none)
    | (key, _) => ([(key, broken)], none)

end

/-- The document at the start of a text, and the text behind it if the document is whole. -/
def read (cs : List Char) : Document × Option (List Char) := readValue (2 * cs.length + 1) cs

/-! ### The value of a document -/

def key? : Document → Option String
  | string s => s
  | _ => none

mutual

/-- The value of a document without faults that is at most `levels` deep. -/
def value? (levels : Nat) : Document → Option Json
  | null => some .null
  | bool b => some (.bool b)
  | number l => l.value?.map .number
  | string s => s.map .string
  | array items => if levels = 0 then none else (values? (levels - 1) items).map .array
  | object members =>
    if levels = 0 then none
    else (memberValues? (levels - 1) members).map fun ms => .object (sortMembers ms)
  | broken => none

def values? (levels : Nat) : List Document → Option (List Json)
  | [] => some []
  | d :: ds =>
    match d.value? levels, values? levels ds with
    | some j, some js => some (j :: js)
    | _, _ => none

/-- The values of the members of an object, in the order of the text. -/
def memberValues? (levels : Nat) : List (Document × Document) → Option (List (String × Json))
  | [] => some []
  | (key, d) :: ms =>
    match key.key?, d.value? levels, memberValues? levels ms with
    | some k, some j, some js => some ((k, j) :: js)
    | _, _, _ => none

end

mutual

/-- Whether the text is JSON up to the end of the document. -/
def isWhole : Document → Bool
  | array items => areWhole items
  | object members => membersAreWhole members
  | broken => false
  | _ => true

def areWhole : List Document → Bool
  | [] => true
  | d :: ds => d.isWhole && areWhole ds

def membersAreWhole : List (Document × Document) → Bool
  | [] => true
  | (key, d) :: ms => key.isWhole && d.isWhole && membersAreWhole ms

end

/-- What a message says about a document, if it can be read that far. -/
def shape? : Document → Option Shape
  | null => some .null
  | bool b => some (.boolean b)
  | number l => l.value?.map .number
  | string s => s.map .text
  | array _ => some .sequence
  | object _ => some .mapping
  | broken => none

end Document

/-! ### Values of texts -/

inductive TextError where
  | malformed
  /-- Its value is not of the form that is wanted. -/
  | mismatch (m : Mismatch)
  deriving DecidableEq

/-- The words for a text that is no JSON. -/
def malformedMessage : String := "<syntax error>"

def TextError.message : TextError → String
  | malformed => malformedMessage
  | mismatch m => m.message

/-- How deep a value may be. -/
def maxDepth : Nat := 127

/-- The value that a text spells, with nothing but blanks behind it. -/
def parse? (text : String) : Option Json :=
  match Document.read text.toList with
  | (d, some rest) => if (skipBlanks rest).isEmpty then d.value? maxDepth else none
  | (_, none) => none

end TemplateLint.Json
