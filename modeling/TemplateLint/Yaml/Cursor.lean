/-!
# Places in a YAML text

A `Cursor` is what is left of a text together with its place: how many bytes come before, and on which
line and at which column it stands. Columns count characters. Besides the line feed, four more
characters and one pair of characters end a line.
-/

namespace TemplateLint.Yaml

/-! ### Characters -/

/-- The characters that end a line. -/
def isBreak (c : Char) : Bool :=
  c == '\n' || c == '\r' || c == '\x85' || c == '\u2028' || c == '\u2029'

def isBlank (c : Char) : Bool := c == ' ' || c == '\t'

/-- The characters of names of anchors, of directives and of tag handles. -/
def isNameChar (c : Char) : Bool := c.isAlphanum || c == '_' || c == '-'

/-- The characters that a text may hold. -/
def isAllowed (c : Char) : Bool :=
  let n := c.toNat
  n == 0x09 || n == 0x0a || n == 0x0d || (0x20 ≤ n && n ≤ 0x7e) || n == 0x85 ||
    (0xa0 ≤ n && n ≤ 0xd7ff) || (0xe000 ≤ n && n ≤ 0xfffd) || 0x10000 ≤ n

/-- Whether a text starts with a break or is at its end. -/
def endsLine : List Char → Bool
  | [] => true
  | c :: _ => isBreak c

/-- Whether a text starts with a blank or a break, or is at its end. -/
def endsWord : List Char → Bool
  | [] => true
  | c :: _ => isBlank c || isBreak c

/-- What the break at the start of a text adds to a scalar: most breaks a line feed, and the two
separators themselves. -/
def breakText : List Char → List Char
  | [] => []
  | c :: _ =>
    if c == '\u2028' || c == '\u2029' then [c] else if isBreak c then ['\n'] else []

/-! ### Cursors -/

def byteWidth (cs : List Char) : Nat := cs.foldl (fun n c => n + c.utf8Size) 0

/-- A place in a text with the text behind it. -/
structure Cursor where
  rest : List Char
  /-- The number of bytes before the place. -/
  index : Nat := 0
  line : Nat := 0
  column : Nat := 0

namespace Cursor

/-- The place behind the next `n` characters, none of which ends a line. -/
def advance (n : Nat) (c : Cursor) : Cursor :=
  { c with
    rest := c.rest.drop n, index := c.index + byteWidth (c.rest.take n), column := c.column + n }

/-- The place behind the next characters that are of a kind, none of which ends a line. -/
def skipWhile (p : Char → Bool) (c : Cursor) : Cursor := c.advance (c.rest.takeWhile p).length

/-- The place `rest` further on in the same line. -/
def moveTo (rest : List Char) (c : Cursor) : Cursor := c.advance (c.rest.length - rest.length)

/-- The place behind the break that comes next, if one does. -/
def newLine (c : Cursor) : Cursor :=
  match c.rest with
  | '\r' :: '\n' :: rest => ⟨rest, c.index + 2, c.line + 1, 0⟩
  | d :: rest => if isBreak d then ⟨rest, c.index + d.utf8Size, c.line + 1, 0⟩ else c
  | [] => c

def skipLine (c : Cursor) : Cursor := c.skipWhile fun d => !isBreak d

/-- The place behind a comment, if one comes next. -/
def skipComment (c : Cursor) : Cursor := if c.rest.head? = some '#' then c.skipLine else c

/-- The start of the next line, when nothing but blanks and a comment is left of this one. -/
def finishLine (c : Cursor) : Option Cursor :=
  let c := (c.skipWhile isBlank).skipComment
  if endsLine c.rest then some c.newLine else none

/-- Whether a marker of three characters stands at the start of the line. -/
def atMarker (marker : List Char) (c : Cursor) : Bool :=
  c.column == 0 && marker.isPrefixOf c.rest && endsWord (c.rest.drop 3)

/-- Whether a document starts or ends here. -/
def atDocumentMarker (c : Cursor) : Bool := c.atMarker ['-', '-', '-'] || c.atMarker ['.', '.', '.']

end Cursor

end TemplateLint.Yaml
