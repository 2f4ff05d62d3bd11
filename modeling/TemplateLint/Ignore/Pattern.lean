import TemplateLint.Text.Basic

/-!
# Path patterns

A pattern matches the whole text of a path, byte by byte. `?` stands for any byte and `*` for any
sequence of bytes, also across slashes. `[a-z]` stands for a byte of a class, and `[!a-z]` or `[^a-z]`
for a byte outside of it. `{a,b}` stands for either of several patterns; alternatives that are empty do
not count. A backslash takes the character behind it as it is.

`**` between slashes stands for any number of directories. It takes one of these slashes away, so that
`a/**/b` matches `a/b`. Elsewhere it is the same as two `*`.
-/

namespace TemplateLint.Ignore

open Text (Marks)

inductive Token where
  | literal (c : Char)
  | anyByte
  | anyBytes
  /-- Any number of directories at the start of a path. -/
  | leadingDirectories
  /-- Any number of directories between two parts of a path, with the slashes around them. -/
  | innerDirectories
  /-- A slash, and everything below. -/
  | everythingBelow
  | oneOf (negated : Bool) (ranges : List (Char × Char))
  | alternatives (branches : List (List Token))

/-! ### Reading patterns -/

/-- The part of a pattern that was read. -/
structure Draft where
  /-- The tokens of the branch that is being read, the last first. -/
  tokens : List Token := []
  /-- The finished branches of the group around it, the last first. -/
  branches : List (List Token) := []
  /-- The branches around that group, the innermost first, each with what was read of it. -/
  outer : List (List Token × List (List Token)) := []

namespace Draft

def inGroup (d : Draft) : Bool := !d.outer.isEmpty

def push (d : Draft) (t : Token) : Draft := { d with tokens := t :: d.tokens }

/-- The draft with two sequences of any bytes more. -/
def pushStars (d : Draft) : Draft := (d.push .anyBytes).push .anyBytes

/-- The draft with its last token replaced, unless that token stands for directories at an end of the
path already. -/
def absorb (d : Draft) (t : Token) : Draft :=
  match d.tokens with
  | [] => d.push t
  | .leadingDirectories :: _ => d
  | .everythingBelow :: _ => d
  | _ :: ts => { d with tokens := t :: ts }

def openGroup (d : Draft) : Draft := ⟨[], [], (d.tokens, d.branches) :: d.outer⟩

/-- Starts the next branch of the open group. Outside of groups a comma is an ordinary character. -/
def comma (d : Draft) : Draft :=
  if d.inGroup then { d with tokens := [], branches := d.tokens.reverse :: d.branches }
  else d.push (.literal ',')

def closeGroup (d : Draft) : Option Draft :=
  match d.outer with
  | [] => none
  | (tokens, branches) :: outer =>
    let group := .alternatives (d.tokens.reverse :: d.branches).reverse
    some ⟨group :: tokens, branches, outer⟩

/-- The tokens of a pattern whose groups are all closed. -/
def finish (d : Draft) : Option (List Token) := if d.inGroup then none else some d.tokens.reverse

/-- Reads two stars. `before` is the character in front of them and `rest` the text behind them. -/
def doubleStar (d : Draft) (before : Option Char) (rest : List Char) : Draft × Char × List Char :=
  if d.tokens.isEmpty then
    match rest with
    | [] => (d.push .leadingDirectories, '*', [])
    | '/' :: rest => (d.push .leadingDirectories, '/', rest)
    | _ => (d.pushStars, '*', rest)
  else if before = some '/' ∨ d.inGroup ∧ (before = some ',' ∨ before = some '\x7b') then
    match rest with
    | [] => (d.absorb .everythingBelow, '*', [])
    | '/' :: rest => (d.absorb .innerDirectories, '/', rest)
    | c :: _ =>
      if d.inGroup ∧ (c = ',' ∨ c = '\x7d') then (d.absorb .everythingBelow, '*', rest)
      else (d.pushStars, '*', rest)
  else (d.pushStars, '*', rest)

/-- Two stars take nothing back. -/
theorem doubleStar_length_le (d : Draft) (before : Option Char) (rest : List Char) :
    (d.doubleStar before rest).2.2.length ≤ rest.length := by
  unfold doubleStar
  split
  · split <;> simp
  · split
    · split <;> try simp
      split <;> simp
    · simp

end Draft

/-- The ranges of a class, the last first. A minus sign between two characters makes a range of them;
`pending` says that such a sign was the last character. A range must not go down. -/
def classRanges : (pending : Bool) → List (Char × Char) → List Char → Option (List (Char × Char))
  | pending, ranges, [] => some (if pending then ('-', '-') :: ranges else ranges)
  | true, (low, _) :: ranges, c :: cs =>
    if low ≤ c then classRanges false ((low, c) :: ranges) cs else none
  | _, ranges, c :: cs =>
    if c = '-' ∧ ranges ≠ [] then classRanges true ranges cs
    else classRanges false ((c, c) :: ranges) cs

/-- Whether a class is negated, and the text behind the sign for that. -/
def splitNegation : List Char → Bool × List Char
  | '!' :: cs => (true, cs)
  | '^' :: cs => (true, cs)
  | cs => (false, cs)

/-- The sign of a negation takes text away. -/
theorem splitNegation_length_le (cs : List Char) :
    (splitNegation cs).2.length ≤ cs.length := by
  unfold splitNegation
  split <;> simp

/-- Reads a pattern. `before` is the last character that was read. -/
def readTokens (d : Draft) (before : Option Char) : List Char → Option (List Token)
  | [] => d.finish
  | '?' :: cs => readTokens (d.push .anyByte) (some '?') cs
  | '*' :: '*' :: cs =>
    have := d.doubleStar_length_le before cs
    readTokens (d.doubleStar before cs).1 (some (d.doubleStar before cs).2.1)
      (d.doubleStar before cs).2.2
  | '*' :: cs => readTokens (d.push .anyBytes) (some '*') cs
  | '[' :: cs =>
    have := splitNegation_length_le cs
    match h : Text.splitBracket (splitNegation cs).2 with
    | none => none
    | some (body, rest) =>
      have := Text.length_lt_of_splitBracket h
      match classRanges false [] body with
      | none => none
      | some ranges => readTokens (d.push (.oneOf (splitNegation cs).1 ranges)) (some ']') rest
  | '\x7b' :: cs => readTokens d.openGroup (some '\x7b') cs
  | '\x7d' :: cs =>
    match d.closeGroup with
    | none => none
    | some d => readTokens d (some '\x7d') cs
  | ',' :: cs => readTokens d.comma (some ',') cs
  | ['\\'] => none
  | '\\' :: c :: cs => readTokens (d.push (.literal c)) (some c) cs
  | c :: cs => readTokens (d.push (.literal c)) (some c) cs
termination_by cs => cs.length
decreasing_by all_goals simp only [List.length_cons]; omega

/-! ### Matching paths -/

/-- Moves marks over a slash. -/
def slash (path : List UInt8) (marks : Marks) : Marks := marks.step (· == 47) path

def bytesOf (c : Char) : List UInt8 := c.toString.toUTF8.toList

/-- Whether a byte is in a range of characters. The bytes of both ends belong to it, and the bytes from
the last of the low end to the first of the high end. -/
def inRange (b : UInt8) (r : Char × Char) : Bool :=
  let low := bytesOf r.1
  let high := bytesOf r.2
  low.contains b || high.contains b ||
    (r.1 ≠ r.2 && low.getLast?.any (· ≤ b) && high.head?.any (b ≤ ·))

mutual

/-- Whether a token stands for nothing: a group whose branches do. -/
def Token.isVoid : Token → Bool
  | .alternatives branches => branchesVoid branches
  | _ => false

def tokensVoid : List Token → Bool
  | [] => true
  | t :: ts => t.isVoid && tokensVoid ts

def branchesVoid : List (List Token) → Bool
  | [] => true
  | ts :: branches => tokensVoid ts && branchesVoid branches

end

mutual

/-- Moves marks over what a token stands for. -/
def Token.move (path : List UInt8) : Token → Marks → Marks
  | .literal c, marks => (bytesOf c).foldl (fun ms b => ms.step (· == b) path) marks
  | .anyByte, marks => marks.step (fun _ => true) path
  | .anyBytes, marks => marks.spread
  | .leadingDirectories, marks => marks.union (slash path (marks.spread))
  | .innerDirectories, marks =>
    let behind := slash path marks
    behind.union (slash path (behind.spread))
  | .everythingBelow, marks => (slash path marks).spread
  | .oneOf negated ranges, marks => marks.step (fun b => ranges.any (inRange b) != negated) path
  | .alternatives branches, marks =>
    if branchesVoid branches then marks else moveBranches path branches marks

/-- Moves marks over the tokens of a branch, one after the other. -/
def moveTokens (path : List UInt8) : List Token → Marks → Marks
  | [], marks => marks
  | t :: ts, marks => moveTokens path ts (t.move path marks)

/-- The marks of all branches of a group that do not stand for nothing. -/
def moveBranches (path : List UInt8) : List (List Token) → Marks → Marks
  | [], marks => marks.clear
  | ts :: branches, marks =>
    let others := moveBranches path branches marks
    if tokensVoid ts then others else (moveTokens path ts marks).union others

end

structure Pattern where
  tokens : List Token

namespace Pattern

/-- The pattern of a text, unless a class or a group is not closed, a range goes down, or the text ends
with a backslash. -/
def parse? (text : String) : Option Pattern := (readTokens {} none text.toList).map .mk

/-- Whether the pattern matches a path. Directories alone match every path. -/
def isMatch (p : Pattern) (path : String) : Bool :=
  match p.tokens with
  | [.leadingDirectories] => true
  | tokens =>
    let bytes := path.toUTF8.toList
    (moveTokens bytes tokens (.start bytes)).atEnd

end Pattern

end TemplateLint.Ignore
