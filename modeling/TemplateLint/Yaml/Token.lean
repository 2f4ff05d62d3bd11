import TemplateLint.Yaml.Block
import TemplateLint.Yaml.Scalar
import TemplateLint.Yaml.Tag

/-!
# Tokens of a YAML text

The layout of a text is turned into tokens: where a block collection starts and where it ends shows in
the columns of its lines. That a scalar is a key shows only at the colon behind it, which has to follow
on the same line. So every place where a key may start is kept as a candidate, and the tokens for the
key are put there when the colon comes.
-/

namespace TemplateLint.Yaml

inductive ScalarStyle where
  | plain
  | quoted
  | literal
  | folded
  deriving DecidableEq, Repr

inductive Token where
  | directive (d : Directive)
  | documentStart
  | documentEnd
  | blockSequenceStart
  | blockMappingStart
  | blockEnd
  | flowSequenceStart
  | flowSequenceEnd
  | flowMappingStart
  | flowMappingEnd
  | blockEntry
  | flowEntry
  | key
  | value
  | reference (name : String)
  | anchor (name : String)
  | tag (name : TagName)
  | scalar (style : ScalarStyle) (text : String)
  deriving DecidableEq, Repr

/-- A place where a key may have started. -/
structure Candidate where
  /-- How many tokens come before it. -/
  number : Nat
  index : Nat
  line : Nat
  column : Nat
  /-- Whether nothing but a key may stand there. -/
  required : Bool

/-- What was read of a text. -/
structure Scanner where
  cursor : Cursor
  /-- The tokens, the last first. -/
  tokens : List Token := []
  count : Nat := 0
  /-- One more than the column of the innermost block collection, or zero outside of all. -/
  margin : Nat := 0
  /-- The margins outside of that collection, the innermost first. -/
  margins : List Nat := []
  /-- The candidate of the innermost flow collection. -/
  candidate : Option Candidate := none
  /-- The candidates outside of that collection, the innermost first. -/
  outer : List (Option Candidate) := []
  /-- Whether a key may start here. -/
  keyAllowed : Bool := true

namespace Scanner

/-- Whether the place is inside of a flow collection. -/
def inFlow (s : Scanner) : Bool := !s.outer.isEmpty

def push (t : Token) (s : Scanner) : Scanner :=
  { s with tokens := t :: s.tokens, count := s.count + 1 }

/-- Puts a token behind the first `number` ones. -/
def insert (number : Nat) (t : Token) (s : Scanner) : Scanner :=
  let later := s.count - number
  { s with tokens := s.tokens.take later ++ t :: s.tokens.drop later, count := s.count + 1 }

/-- Adds the token of the next `n` characters. -/
def take (n : Nat) (t : Token) (s : Scanner) : Scanner :=
  { s.push t with cursor := s.cursor.advance n }

def allowKey (b : Bool) (s : Scanner) : Scanner := { s with keyAllowed := b }

/-! ### Block collections -/

/-- Opens a block collection at a column, unless one is open there. Its token comes behind the first
`number` ones. -/
def openBlock (column number : Nat) (t : Token) (s : Scanner) : Scanner :=
  if s.inFlow ∨ column < s.margin then s
  else { s.insert number t with margin := column + 1, margins := s.margin :: s.margins }

/-- Ends the block collections whose margin is greater than `bound`. -/
def closeMargins (bound : Nat) (s : Scanner) : List Nat → Scanner
  | [] => s
  | outer :: margins =>
    if s.margin ≤ bound then s
    else closeMargins bound { s.push .blockEnd with margin := outer, margins := margins } margins

/-- Ends the block collections whose margin is greater than `bound`. -/
def closeBlocks (bound : Nat) (s : Scanner) : Scanner :=
  if s.inFlow then s else s.closeMargins bound s.margins

/-! ### Candidates for keys -/

/-- Drops a candidate. One that has to be a key is not dropped. -/
def dropCandidate : Option Candidate → Option (Option Candidate)
  | some k => if k.required then none else some none
  | none => some none

/-- Drops the candidate of the innermost collection. -/
def dropKey (s : Scanner) : Option Scanner := do
  return { s with candidate := ← dropCandidate s.candidate }

/-- Drops candidates of earlier lines, and those more than 1024 bytes ago. -/
def dropStale (s : Scanner) : Option Scanner := do
  let fresh (k : Option Candidate) : Option (Option Candidate) :=
    if k.any fun k => k.line < s.cursor.line || k.index + 1024 < s.cursor.index
    then dropCandidate k else some k
  return { s with candidate := ← fresh s.candidate, outer := ← s.outer.mapM fresh }

/-- Makes this place a candidate, if a key may start here. -/
def saveKey (s : Scanner) : Option Scanner :=
  if s.keyAllowed then do
    let s ← s.dropKey
    return { s with candidate := some {
      number := s.count
      index := s.cursor.index
      line := s.cursor.line
      column := s.cursor.column
      required := !s.inFlow && s.margin == s.cursor.column + 1 } }
  else some s

/-! ### Tokens -/

/-- Skips blanks, comments and breaks, at most `steps` lines of them. A tab counts as a blank where no
key may start. A mark for the byte order may stand at the start of a line and takes a column. -/
def skipBlanks : (steps : Nat) → Scanner → Scanner
  | 0, s => s
  | steps + 1, s =>
    let c := s.cursor
    let c := if c.column = 0 ∧ c.rest.head? = some '\ufeff' then c.advance 1 else c
    let c := c.skipWhile fun d => d == ' ' || d == '\t' && (s.inFlow || !s.keyAllowed)
    let c := c.skipComment
    if c.rest.head?.any isBreak then
      skipBlanks steps { s with cursor := c.newLine, keyAllowed := s.keyAllowed || !s.inFlow }
    else { s with cursor := c }

/-- Ends what is open before a line that belongs to no document. -/
def leaveDocument (s : Scanner) : Option Scanner := do
  return (← (s.closeBlocks 0).dropKey).allowKey false

def startFlow (t : Token) (s : Scanner) : Option Scanner := do
  let s ← s.saveKey
  return ({ s with candidate := none, outer := s.candidate :: s.outer }.allowKey true).take 1 t

def endFlow (t : Token) (s : Scanner) : Option Scanner := do
  let s ← s.dropKey
  let s := match s.outer with
    | [] => s
    | candidate :: outer => { s with candidate, outer }
  return (s.allowKey false).take 1 t

/-- Reads the indicator of an entry or of a key, which opens a block collection if none is open. -/
def startEntry (opening t : Token) (keyInFlow : Bool) (s : Scanner) : Option Scanner := do
  if !s.inFlow && !s.keyAllowed then failure
  let s ← (s.openBlock s.cursor.column s.count opening).dropKey
  return (s.allowKey (keyInFlow || !s.inFlow)).take 1 t

/-- Reads the colon in front of a value. With a candidate, the tokens of the key are put there. -/
def startValue (s : Scanner) : Option Scanner :=
  match s.candidate with
  | some k =>
    let s := (s.insert k.number .key).openBlock k.column k.number .blockMappingStart
    some (({ s with candidate := none }.allowKey false).take 1 .value)
  | none => do
    if !s.inFlow && !s.keyAllowed then failure
    let s := s.openBlock s.cursor.column s.count .blockMappingStart
    return (s.allowKey (!s.inFlow)).take 1 .value

/-- Reads a token that may start a key. -/
def readWith (read : Cursor → Option (Token × Cursor)) (s : Scanner) : Option Scanner := do
  let s ← s.saveKey
  let (t, c) ← read s.cursor
  return { (s.push t).allowKey false with cursor := c }

/-- The name of an anchor or of an alias. -/
def readName (make : String → Token) (c : Cursor) : Option (Token × Cursor) := do
  let c := c.advance 1
  let name := c.rest.takeWhile isNameChar
  let c := c.advance name.length
  let ended := endsWord c.rest || c.rest.head?.any ("?:,]\x7d%@`".toList.contains ·)
  if name.isEmpty ∨ !ended then failure
  return (make (String.ofList name), c)

def readQuoted (q : Quote) : Scanner → Option Scanner :=
  readWith fun c => do
    let (text, c) ← c.quotedScalar q
    return (.scalar .quoted (String.ofList text), c)

def readBlock (folded : Bool) (s : Scanner) : Option Scanner := do
  let s ← s.dropKey
  let (text, c) ← (s.cursor.advance 1).blockScalar folded s.margin
  let style := if folded then .folded else .literal
  return { (s.push (.scalar style (String.ofList text))).allowKey true with cursor := c }

/-- Reads a plain scalar. A key may start behind it when it was the last of its line. -/
def readPlain (s : Scanner) : Option Scanner := do
  let s ← s.saveKey
  let p ← s.cursor.plainScalar s.inFlow s.margin
  return { (s.push (.scalar .plain (String.ofList p.text))).allowKey p.endedLine with
    cursor := p.stop }

/-- Whether a plain scalar may start with a character, with `next` behind it. -/
def startsPlain (inFlow : Bool) (c : Char) (next : List Char) : Bool :=
  !("-?:,[]\x7b\x7d#&*!|>'\"%@`".toList.contains c || isBlank c || isBreak c) ||
    c == '-' && !next.head?.any isBlank ||
    !inFlow && (c == '?' || c == ':') && !endsWord next

/-- Reads the token that starts with `c`, with `next` behind it. -/
def readToken (c : Char) (next : List Char) (s : Scanner) : Option Scanner :=
  if s.cursor.column = 0 ∧ c = '%' then do
    let s ← s.leaveDocument
    let (d, cursor) ← s.cursor.directive
    return { s.push (.directive d) with cursor }
  else if s.cursor.atMarker ['-', '-', '-'] then do return (← s.leaveDocument).take 3 .documentStart
  else if s.cursor.atMarker ['.', '.', '.'] then do return (← s.leaveDocument).take 3 .documentEnd
  else if c = '[' then s.startFlow .flowSequenceStart
  else if c = '\x7b' then s.startFlow .flowMappingStart
  else if c = ']' then s.endFlow .flowSequenceEnd
  else if c = '\x7d' then s.endFlow .flowMappingEnd
  else if c = ',' then do return ((← s.dropKey).allowKey true).take 1 .flowEntry
  else if c = '-' ∧ endsWord next then s.startEntry .blockSequenceStart .blockEntry true
  else if c = '?' ∧ (s.inFlow ∨ endsWord next) then s.startEntry .blockMappingStart .key false
  else if c = ':' ∧ (s.inFlow ∨ endsWord next) then s.startValue
  else if c = '*' then s.readWith (readName .reference)
  else if c = '&' then s.readWith (readName .anchor)
  else if c = '!' then
    s.readWith fun cursor => do
      let (name, cursor) ← cursor.tag s.inFlow
      return (.tag name, cursor)
  else if c = '|' ∧ !s.inFlow then s.readBlock false
  else if c = '>' ∧ !s.inFlow then s.readBlock true
  else if c = '\'' then s.readQuoted .single
  else if c = '"' then s.readQuoted .double
  else if startsPlain s.inFlow c next then s.readPlain
  else none

/-- Reads the tokens of a text, at most `steps` of them. -/
def run : (steps : Nat) → Scanner → Option (List Token)
  | 0, _ => none
  | steps + 1, s => do
    let s ← (s.skipBlanks (s.cursor.rest.length + 1)).dropStale
    let s := s.closeBlocks (s.cursor.column + 1)
    match s.cursor.rest with
    | [] => return (← s.leaveDocument).tokens.reverse
    | c :: next => run steps (← s.readToken c next)

end Scanner

/-- The tokens of a text, of which every character has to be one that a text may hold. -/
def tokens? (text : String) : Option (List Token) :=
  let cs := text.toList
  if cs.all isAllowed then Scanner.run (cs.length + 1) { cursor := { rest := cs } } else none

end TemplateLint.Yaml
