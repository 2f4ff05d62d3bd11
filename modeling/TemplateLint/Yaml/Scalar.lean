import TemplateLint.Yaml.Cursor

/-!
# Scalars on flow lines

A scalar is plain or stands between quotes. Its lines are folded, and a quoted one may hold escapes.
-/

namespace TemplateLint.Yaml

/-! ### Folding of lines

Between two words of a scalar there are blanks or breaks. Blanks on one line stand as they are. A line
that ends is folded: a single break becomes a space, and of several breaks the first one is left out. -/

/-- What stands between two words. -/
inductive Gap where
  | blanks (cs : List Char)
  /-- The first break and the other ones. Blanks around breaks do not count. -/
  | breaks (first more : List Char)
  deriving DecidableEq, Repr

namespace Gap

def endsLine : Gap → Bool
  | blanks _ => false
  | breaks .. => true

/-- What a gap adds to the text of a scalar. -/
def fold : Gap → List Char
  | blanks cs => cs
  | breaks ['\n'] [] => [' ']
  | breaks ['\n'] more => more
  | breaks first more => first ++ more

def addBlank (c : Char) : Gap → Gap
  | blanks cs => blanks (cs ++ [c])
  | breaks first more => breaks first more

def addBreak (text : List Char) : Gap → Gap
  | blanks _ => breaks text []
  | breaks first more => breaks first (more ++ text)

end Gap

/-- Reads the rest of a gap, at most `steps` characters of it. On a line of its own, a tab may not stand
before the column `indent`. -/
def readGap (indent : Nat) : (steps : Nat) → Gap → Cursor → Option (Gap × Cursor)
  | 0, gap, c => some (gap, c)
  | steps + 1, gap, c =>
    match c.rest with
    | [] => some (gap, c)
    | d :: _ =>
      if isBlank d then
        if d == '\t' && gap.endsLine && c.column < indent then none
        else readGap indent steps (gap.addBlank d) (c.advance 1)
      else if isBreak d then readGap indent steps (gap.addBreak (breakText c.rest)) c.newLine
      else some (gap, c)

/-- The gap at a place, and the place behind it. -/
def Cursor.gap (indent : Nat) (gap : Gap) (c : Cursor) : Option (Gap × Cursor) :=
  readGap indent c.rest.length gap c

/-! ### Plain scalars

A plain scalar is a row of words without quotes. It ends at a colon that a blank follows, at a comment,
at a line that is not indented far enough, and inside of brackets and braces at each of these and at a
comma. -/

/-- The characters that structure a flow collection. -/
def isFlowIndicator (c : Char) : Bool :=
  c == ',' || c == '[' || c == ']' || c == '\x7b' || c == '\x7d'

/-- The word at the start of a text. In a flow collection there may be no word with a colon right before
a character of the collection. -/
def plainWord (inFlow : Bool) : List Char → Option (List Char)
  | [] => some []
  | c :: cs =>
    if isBlank c || isBreak c then some []
    else if inFlow && c == ':' && cs.head?.any (fun d => isFlowIndicator d || d == '?') then none
    else if c == ':' && endsWord cs || inFlow && isFlowIndicator c then some []
    else (plainWord inFlow cs).map (c :: ·)

/-- A scalar that was read. -/
structure PlainScalar where
  text : List Char
  /-- The place behind the scalar and the gap after it. -/
  stop : Cursor
  /-- Whether a line ended after the scalar. -/
  endedLine : Bool

/-- Reads the words of a scalar from a place on, at most `steps` of them. `gap` stands before the next
word. -/
def readPlain (inFlow : Bool) (indent : Nat) :
    (steps : Nat) → (text : List Char) → Gap → Cursor → Option PlainScalar
  | 0, text, gap, c => some ⟨text, c, gap.endsLine⟩
  | steps + 1, text, gap, c =>
    if c.atDocumentMarker || c.rest.head? == some '#' then some ⟨text, c, gap.endsLine⟩
    else do
      let word ← plainWord inFlow c.rest
      let c := c.advance word.length
      let (text, gap) := if word.isEmpty then (text, gap) else (text ++ gap.fold ++ word, .blanks [])
      if c.rest.head?.any (fun d => isBlank d || isBreak d) then
        let (gap, c) ← c.gap indent (.blanks [])
        if !inFlow && c.column < indent then some ⟨text, c, gap.endsLine⟩
        else readPlain inFlow indent steps text gap c
      else some ⟨text, c, gap.endsLine⟩

/-- The plain scalar at a place. Its lines have to be indented to the column `indent`. -/
def Cursor.plainScalar (inFlow : Bool) (indent : Nat) (c : Cursor) : Option PlainScalar :=
  readPlain inFlow indent (c.rest.length + 1) [] (.blanks []) c

/-! ### Quoted scalars

Between single quotes every character stands for itself, and a quote is written twice. Between double
quotes a backslash starts an escape. The lines of both are folded; a backslash at the end of a line
joins it to the next one without a space. -/

/-- The two kinds of quotes. -/
inductive Quote where
  | single
  | double
  deriving DecidableEq, Repr

/-- The character that quotes. -/
def Quote.char : Quote → Char
  | single => '\''
  | double => '"'

/-- The character of an escape that is one letter long. -/
def escape? : Char → Option Char
  | '0' => some '\x00'
  | 'a' => some '\x07'
  | 'b' => some '\x08'
  | 't' => some '\t'
  | '\t' => some '\t'
  | 'n' => some '\n'
  | 'v' => some '\x0b'
  | 'f' => some '\x0c'
  | 'r' => some '\r'
  | 'e' => some '\x1b'
  | ' ' => some ' '
  | '"' => some '"'
  | '/' => some '/'
  | '\\' => some '\\'
  | 'N' => some '\x85'
  | '_' => some '\xa0'
  | 'L' => some '\u2028'
  | 'P' => some '\u2029'
  | _ => none

/-- How many hexadecimal digits follow on the letter of an escape. -/
def escapeDigits? : Char → Option Nat
  | 'x' => some 2
  | 'u' => some 4
  | 'U' => some 8
  | _ => none

/-- The value of a hexadecimal digit. -/
def hexDigit? (c : Char) : Option Nat :=
  if c.isDigit then some (c.toNat - '0'.toNat)
  else if 'a' ≤ c ∧ c ≤ 'f' then some (c.toNat - 'a'.toNat + 10)
  else if 'A' ≤ c ∧ c ≤ 'F' then some (c.toNat - 'A'.toNat + 10)
  else none

def hexNumber? (cs : List Char) : Option Nat :=
  cs.foldlM (fun n c => (hexDigit? c).map (16 * n + ·)) 0

/-- The character of a code point. Halves of surrogate pairs are none. -/
def charOfCode? (n : Nat) : Option Char := if n.isValidChar then some (.ofNat n) else none

/-- The character that an escape stands for, and the text behind it. The backslash was read. -/
def readEscape : List Char → Option (Char × List Char)
  | [] => none
  | e :: cs =>
    match escape? e, escapeDigits? e with
    | some c, _ => some (c, cs)
    | none, some count => do
      if (cs.take count).length < count then failure
      return (← charOfCode? (← hexNumber? (cs.take count)), cs.drop count)
    | none, none => none

/-- How a row of characters between quotes ends. -/
inductive QuotedEnd where
  /-- At the closing quote, at a blank, at a break or at the end of the text. -/
  | plain
  /-- At a break with a backslash before it. -/
  | escapedBreak
  deriving DecidableEq, Repr

/-- The characters at the start of a text up to a blank, a break or the closing quote, at most `steps`
of them, with the text behind them. -/
def quotedWord (q : Quote) : (steps : Nat) → List Char → Option (List Char × List Char × QuotedEnd)
  | 0, cs => some ([], cs, .plain)
  | _, [] => some ([], [], .plain)
  | steps + 1, c :: cs =>
    let go (d : Char) (rest : List Char) :=
      (quotedWord q steps rest).map fun (ds, rest, stop) => (d :: ds, rest, stop)
    if isBlank c || isBreak c then some ([], c :: cs, .plain)
    else
      match q, c, cs with
      | .single, '\'', '\'' :: rest => go '\'' rest
      | .single, '\'', _ => some ([], c :: cs, .plain)
      | .double, '"', _ => some ([], c :: cs, .plain)
      | .double, '\\', _ =>
        if cs.head?.any isBreak then some ([], cs, .escapedBreak)
        else do
          let (d, rest) ← readEscape cs
          go d rest
      | _, _, _ => go c cs

/-- Reads a scalar up to its closing quote, at most `steps` words of it. -/
def readQuoted (q : Quote) : (steps : Nat) → (text : List Char) → Cursor → Option (List Char × Cursor)
  | 0, _, _ => none
  | steps + 1, text, c => do
    if c.atDocumentMarker || c.rest.isEmpty then failure
    let (word, rest, stop) ← quotedWord q c.rest.length c.rest
    let text := text ++ word
    let c := c.moveTo rest
    match stop with
    | .escapedBreak =>
      let (gap, c) ← c.newLine.gap 0 (.breaks [] [])
      readQuoted q steps (text ++ gap.fold) c
    | .plain =>
      if c.rest.head? = some q.char then return (text, c.advance 1)
      let (gap, c) ← c.gap 0 (.blanks [])
      readQuoted q steps (text ++ gap.fold) c

/-- The quoted scalar at a place, with the place behind its closing quote. -/
def Cursor.quotedScalar (q : Quote) (c : Cursor) : Option (List Char × Cursor) :=
  readQuoted q (c.rest.length + 1) [] (c.advance 1)

end TemplateLint.Yaml
