import TemplateLint.Yaml.Cursor

/-!
# Block scalars

A block scalar is the indented lines below its header. A literal one keeps its line breaks, and a folded
one joins lines with spaces where neither of them starts with a blank. The header may tell how far the
lines are indented; otherwise the first line that is not empty shows it. It may also tell what becomes
of the breaks at the end: one of them stays, or none, or all.
-/

namespace TemplateLint.Yaml

/-- What becomes of the breaks at the end. -/
inductive Chomping where
  | clip
  | strip
  | keep
  deriving DecidableEq, Repr

structure BlockHeader where
  chomping : Chomping := .clip
  /-- How much deeper than the lines around it the scalar is indented, or zero if this does not say. -/
  increment : Nat := 0
  deriving DecidableEq, Repr

/-- The chomping that a character asks for. -/
def chomping? (c : Char) : Option Chomping :=
  if c == '+' then some .keep else if c == '-' then some .strip else none

/-- The indentation that a digit asks for. -/
def increment? (c : Char) : Option Nat := if c.isDigit then some (c.toNat - '0'.toNat) else none

/-- The parts of a header at the start of a text. Both may be missing, and either may come first. -/
def headerParts : List Char → Option Chomping × Option Nat
  | [] => (none, none)
  | a :: cs =>
    match chomping? a, increment? a with
    | some chomping, _ => (some chomping, cs.head?.bind increment?)
    | none, some increment => (cs.head?.bind chomping?, some increment)
    | none, none => (none, none)

/-- Reads a header. An indentation of zero is refused. -/
def Cursor.blockHeader (c : Cursor) : Option (BlockHeader × Cursor) := do
  let (chomping, increment) := headerParts c.rest
  if increment = some 0 then failure
  let c ← (c.advance (chomping.toList.length + increment.toList.length)).finishLine
  return (⟨chomping.getD .clip, increment.getD 0⟩, c)

/-- Reads indentation and empty lines, at most `steps` of them: the greatest column of a line's start,
and the breaks. While `indent` is zero every space is indentation; later only those before the column
`indent`. -/
def readIndentation (indent : Nat) :
    (steps : Nat) → (deepest : Nat) → (breaks : List Char) → Cursor → Option (Nat × List Char × Cursor)
  | 0, deepest, breaks, c => some (deepest, breaks, c)
  | steps + 1, deepest, breaks, c => do
    let spaces := (c.rest.takeWhile (· == ' ')).length
    let c := c.advance (if indent = 0 then spaces else min spaces (indent - c.column))
    let deepest := max deepest c.column
    if (indent = 0 ∨ c.column < indent) ∧ c.rest.head? = some '\t' then failure
    if c.rest.head?.any isBreak then
      readIndentation indent steps deepest (breaks ++ breakText c.rest) c.newLine
    else return (deepest, breaks, c)

/-- Indentation and empty lines at a place. -/
def Cursor.indentation (indent : Nat) (c : Cursor) : Option (Nat × List Char × Cursor) :=
  readIndentation indent (c.rest.length + 1) 0 [] c

/-- What was read of a block scalar. -/
structure BlockDraft where
  text : List Char := []
  /-- The break behind the last line. -/
  lineBreak : List Char := []
  /-- The breaks of empty lines behind that. -/
  emptyLines : List Char := []
  /-- Whether the last line started with a blank. -/
  startedBlank : Bool := false

def BlockDraft.addLine (folded : Bool) (d : BlockDraft) (line lineBreak : List Char) : BlockDraft :=
  let blank := line.head?.any isBlank
  let join :=
    if folded && d.lineBreak == ['\n'] && !d.startedBlank && !blank then
      if d.emptyLines.isEmpty then [' '] else []
    else d.lineBreak
  ⟨d.text ++ join ++ d.emptyLines ++ line, lineBreak, [], blank⟩

def BlockDraft.finish (chomping : Chomping) (d : BlockDraft) : List Char :=
  match chomping with
  | .strip => d.text
  | .clip => d.text ++ d.lineBreak
  | .keep => d.text ++ d.lineBreak ++ d.emptyLines

/-- Reads the lines of a scalar, at most `steps` of them. -/
def readBlockLines (folded : Bool) (indent : Nat) :
    (steps : Nat) → BlockDraft → Cursor → Option (BlockDraft × Cursor)
  | 0, d, c => some (d, c)
  | steps + 1, d, c =>
    if c.column = indent ∧ !c.rest.isEmpty then do
      let stop := c.skipLine
      let line := c.rest.take (stop.column - c.column)
      let d := d.addLine folded line (breakText stop.rest)
      let (_, breaks, c) ← stop.newLine.indentation indent
      readBlockLines folded indent steps { d with emptyLines := breaks } c
    else some (d, c)

/-- The block scalar at a place, whose indicator was read. `margin` is the least column at which a
scalar inside of the collection around it may stand. -/
def Cursor.blockScalar (folded : Bool) (margin : Nat) (c : Cursor) :
    Option (List Char × Cursor) := do
  let (header, c) ← c.blockHeader
  let given := if header.increment = 0 then 0 else margin - 1 + header.increment
  let (deepest, breaks, c) ← c.indentation given
  let indent := if given = 0 then max (max deepest margin) 1 else given
  let (d, c) ← readBlockLines folded indent (c.rest.length + 1) { emptyLines := breaks } c
  return (d.finish header.chomping, c)

end TemplateLint.Yaml
