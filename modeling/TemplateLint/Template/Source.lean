import TemplateLint.Json.Record
import TemplateLint.Text.Basic

/-!
# Places and texts

A node of a template knows the place that it was read from. The text itself, where it is at hand, is kept
line by line.
-/

namespace TemplateLint

/-! ### Places in a template text

Lines count from one and columns from zero, in characters. A span whose start is on line zero was not
recorded. -/

/-- A point in a template text. -/
structure Position where
  line : UInt64 := 0
  column : UInt64 := 0
  deriving DecidableEq, Repr, Inhabited

/-- The part of a template text from one point to another. -/
structure Span where
  start : Position := {}
  stop : Position := {}
  deriving DecidableEq, Repr, Inhabited

namespace Position

def read (nested : Bool) : Json.Reader Position := fun j => do
  let r ← Json.Record.find ⟨"Position", [], ["line", "column"]⟩ nested j
  r.conclude <| Position.mk <$> r.optional "line" Json.readWord 0
    <*> r.optional "column" Json.readWord 0

def toJson (p : Position) : Json :=
  .object [("line", .nat p.line.toNat), ("column", .nat p.column.toNat)]

end Position

namespace Span

/-- Whether the place was recorded. -/
def isKnown (s : Span) : Bool := 0 < s.start.line

def read (nested : Bool) : Json.Reader Span := fun j => do
  let r ← Json.Record.find ⟨"SourceLocation", [], ["start", "end"]⟩ nested j
  r.conclude <| Span.mk <$> r.optional "start" (Position.read nested) {}
    <*> r.optional "end" (Position.read nested) {}

def toJson (s : Span) : Json :=
  .object [("start", s.start.toJson), ("end", s.stop.toJson)]

end Span

/-! ### The text of a template

A `Source` holds the lines of the text that a template was read from, and `Source.slice` quotes what
stands between two places of it. Places outside of the text quote nothing. -/

/-- The text of a template, line by line. -/
structure Source where
  lines : List String
  deriving DecidableEq, Repr

namespace Source

def ofText (text : String) : Source := ⟨Text.lines text⟩

def empty : Source := ⟨[]⟩

def isEmpty (s : Source) : Bool := s.lines.isEmpty

/-- Consecutive lines up to a column of the last one. -/
def upTo (column : Nat) : List String → String
  | [] => ""
  | [last] => Text.slice 0 column last
  | line :: more => line ++ "\n" ++ upTo column more

/-- Consecutive lines from a column of the first one up to a column of the last one. -/
def between (start stop : Nat) : List String → String
  | [] => ""
  | [line] => Text.slice start (stop - start) line
  | first :: more => Text.slice start first.length first ++ "\n" ++ upTo stop more

/-- The text of a span. It is empty when the span does not lie within the lines. -/
def slice (s : Source) (span : Span) : String :=
  let first := span.start.line.toNat
  let last := span.stop.line.toNat
  if first = 0 ∨ last < first ∨ s.lines.length < last then ""
  else
    between span.start.column.toNat span.stop.column.toNat
      ((s.lines.drop (first - 1)).take (last - first + 1))

end Source

end TemplateLint
