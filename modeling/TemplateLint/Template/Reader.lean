import TemplateLint.Template.Syntax

/-!
# Templates from JSON values

The readers follow the tree. A node that holds nodes of its own kind is read down to a number of
levels; with the depth of the value itself, which the plain names below take, no level is ever
missed, since a value without levels is no node.

Every reader is told whether it reads inside a tagged node. The readers of single kinds that are not told
so read the fields that are left when the tag is taken off.
-/

namespace TemplateLint

open Json (Reader Record Mismatch)

/-! ### Expressions -/

namespace Expression

/-- The kinds of expressions, in the order of their numbers. -/
def kinds : List String :=
  ["PathExpression", "SubExpression", "StringLiteral", "BooleanLiteral", "NumberLiteral",
    "NullLiteral", "UndefinedLiteral", "Unknown"]

end Expression

def Pair.readWith (read : Reader Expression) (nested : Bool) : Reader Pair := fun j => do
  let r ← Record.find ⟨"HashPair", ["key", "value"], ["loc"]⟩ nested j
  r.conclude <| Pair.mk <$> r.required "key" Json.readText <*> r.required "value" read
    <*> r.optional "loc" (Span.read nested) {}

def Hash.readWith (read : Reader Expression) (nested : Bool) : Reader Hash := fun j => do
  let r ← Record.find ⟨"Hash", [], ["pairs", "loc"]⟩ nested j
  r.conclude <| Hash.mk <$> r.optional "pairs" (Json.readList (Pair.readWith read nested)) []
    <*> r.optional "loc" (Span.read nested) {}

/-- Reads a call, whose name in messages is `name`. -/
def Call.readWith (name : String) (read : Reader Expression) (nested : Bool) : Reader Call :=
  fun j => do
    let r ← Record.find ⟨name, ["path"], ["params", "hash", "loc"]⟩ nested j
    r.conclude <| Call.mk <$> r.required "path" read
      <*> r.optional "params" (Json.readList read) []
      <*> r.optional "hash" (Hash.readWith read nested) default
      <*> r.optional "loc" (Span.read nested) {}

namespace Expression

def readPath : Reader Expression := fun j => do
  let r ← Record.find ⟨"PathExpression", ["original"], ["loc"]⟩ true j
  r.conclude <| path <$> r.required "original" Json.readText
    <*> r.optional "loc" (Span.read true) {}

def readString : Reader Expression := fun j => do
  let r ← Record.find ⟨"StringLiteral", ["value"], ["loc"]⟩ true j
  r.conclude <| string <$> r.required "value" Json.readText
    <*> r.optional "loc" (Span.read true) {}

/-- The value of a literal other than a string may be anything. -/
def readLiteral (kind : LiteralKind) : Reader Expression := fun j => do
  let r ← Record.find ⟨"Literal", [], ["value", "loc"]⟩ true j
  r.conclude <| literal kind <$> r.optional "value" .ok .null
    <*> r.optional "loc" (Span.read true) {}

/-- Reads an expression that is at most `levels` deep. -/
def readLevels : (levels : Nat) → (nested : Bool) → Reader Expression
  | 0, _, j => .error (.wrongType j.shape "internally tagged enum Expression")
  | levels + 1, nested, j => do
    let (kind, fields) ← Json.readTagged "Expression" kinds nested j
    match kind with
    | "PathExpression" => readPath fields
    | "SubExpression" =>
      return .sub (← Call.readWith "SubExpression" (readLevels levels true) true fields)
    | "StringLiteral" => readString fields
    | "BooleanLiteral" => readLiteral .boolean fields
    | "NumberLiteral" => readLiteral .number fields
    | "NullLiteral" => readLiteral .null fields
    | "UndefinedLiteral" => readLiteral .undefined fields
    | _ => Json.readUnknown .unknown fields

def read (nested : Bool) : Reader Expression := fun j => readLevels j.depth nested j

end Expression

def Pair.read (nested : Bool) : Reader Pair := Pair.readWith (Expression.read nested) nested

def Hash.read (nested : Bool) : Reader Hash := Hash.readWith (Expression.read nested) nested

def Call.read (name : String) (nested : Bool) : Reader Call :=
  Call.readWith name (Expression.read nested) nested

/-! ### Attributes -/

/-- A text stands in a body or in an attribute; `make` puts it there. -/
def readTextNode {α : Type} (make : String → Span → α) : Reader α := fun j => do
  let r ← Record.find ⟨"TextNode", [], ["chars", "loc"]⟩ true j
  r.conclude <| make <$> r.optional "chars" Json.readText ""
    <*> r.optional "loc" (Span.read true) {}

namespace AttributeValue

/-- The kinds of attribute values, in the order of their numbers. -/
def kinds : List String := ["TextNode", "MustacheStatement", "ConcatStatement", "Unknown"]

def readConcat (read : Reader AttributeValue) : Reader AttributeValue := fun j => do
  let r ← Record.find ⟨"ConcatStatement", [], ["parts", "loc"]⟩ true j
  r.conclude <| concat <$> r.optional "parts" (Json.readList read) []
    <*> r.optional "loc" (Span.read true) {}

/-- Reads an attribute value that is at most `levels` deep. -/
def readLevels : (levels : Nat) → (nested : Bool) → Reader AttributeValue
  | 0, _, j => .error (.wrongType j.shape "internally tagged enum AttrValue")
  | levels + 1, nested, j => do
    let (kind, fields) ← Json.readTagged "AttrValue" kinds nested j
    match kind with
    | "TextNode" => readTextNode .text fields
    | "MustacheStatement" => return .mustache (← Call.read "MustacheStatement" true fields)
    | "ConcatStatement" => readConcat (readLevels levels true) fields
    | _ => Json.readUnknown .unknown fields

def read (nested : Bool) : Reader AttributeValue := fun j => readLevels j.depth nested j

end AttributeValue

def Attribute.read (nested : Bool) : Reader Attribute := fun j => do
  let r ← Record.find ⟨"AttrNode", ["name", "value"], ["loc"]⟩ nested j
  r.conclude <| Attribute.mk <$> r.required "name" Json.readText
    <*> r.required "value" (AttributeValue.read nested)
    <*> r.optional "loc" (Span.read nested) {}

/-! ### Statements -/

def Block.readWith (name : String) (read : Reader Statement) (nested : Bool) : Reader Block :=
  fun j => do
    let r ← Record.find ⟨name, [], ["body", "loc"]⟩ nested j
    r.conclude <| Block.mk <$> r.optional "body" (Json.readList read) []
      <*> r.optional "loc" (Span.read nested) {}

def Element.readWith (read : Reader Statement) (nested : Bool) : Reader Element := fun j => do
  let r ← Record.find ⟨"ElementNode", ["tag"], ["attributes", "modifiers", "children", "loc"]⟩
    nested j
  r.conclude <| Element.mk <$> r.required "tag" Json.readText
    <*> r.optional "attributes" (Json.readList (Attribute.read nested)) []
    <*> r.optional "modifiers" (Json.readList (Call.read "ElementModifierStatement" nested)) []
    <*> r.optional "children" (Json.readList read) []
    <*> r.optional "loc" (Span.read nested) {}

def BlockStatement.readWith (read : Reader Statement) (nested : Bool) : Reader BlockStatement :=
  fun j => do
    let r ← Record.find
      ⟨"BlockStatement", ["path"], ["params", "hash", "program", "inverse", "loc"]⟩ nested j
    let make (callee : Expression) (params : List Expression) (hash : Hash) (program : Block)
        (inverse : Option Block) (loc : Span) : BlockStatement :=
      ⟨⟨callee, params, hash, loc⟩, program, inverse⟩
    r.conclude <| make <$> r.required "path" (Expression.read nested)
      <*> r.optional "params" (Json.readList (Expression.read nested)) []
      <*> r.optional "hash" (Hash.read nested) default
      <*> r.optional "program" (Block.readWith "Block" read nested) default
      <*> r.optional "inverse" (Json.readOptional (Block.readWith "Block" read nested)) none
      <*> r.optional "loc" (Span.read nested) {}

namespace Statement

/-- The kinds of statements, in the order of their numbers. -/
def kinds : List String :=
  ["ElementNode", "MustacheStatement", "BlockStatement", "TextNode", "CommentStatement",
    "MustacheCommentStatement", "Unknown"]

def readComment (kind : CommentKind) : Reader Statement := fun j => do
  let r ← Record.find ⟨"CommentStatement", [], ["value", "loc"]⟩ true j
  r.conclude <| comment kind <$> r.optional "value" Json.readText ""
    <*> r.optional "loc" (Span.read true) {}

/-- Reads a statement that is at most `levels` deep. -/
def readLevels : (levels : Nat) → (nested : Bool) → Reader Statement
  | 0, _, j => .error (.wrongType j.shape "internally tagged enum Statement")
  | levels + 1, nested, j => do
    let (kind, fields) ← Json.readTagged "Statement" kinds nested j
    match kind with
    | "ElementNode" => return .element (← Element.readWith (readLevels levels true) true fields)
    | "MustacheStatement" => return .mustache (← Call.read "MustacheStatement" true fields)
    | "BlockStatement" =>
      return .block (← BlockStatement.readWith (readLevels levels true) true fields)
    | "TextNode" => readTextNode .text fields
    | "CommentStatement" => readComment .markup fields
    | "MustacheCommentStatement" => readComment .mustache fields
    | _ => Json.readUnknown .unknown fields

def read (nested : Bool) : Reader Statement := fun j => readLevels j.depth nested j

end Statement

def Block.read (nested : Bool) : Reader Block :=
  Block.readWith "Block" (Statement.read nested) nested

def Element.read (nested : Bool) : Reader Element :=
  Element.readWith (Statement.read nested) nested

def BlockStatement.read (nested : Bool) : Reader BlockStatement :=
  BlockStatement.readWith (Statement.read nested) nested

def Template.read : Reader Template := fun j => do
  let r ← Record.find ⟨"Template", [], ["body", "loc"]⟩ false j
  r.conclude <| Template.mk <$> r.optional "body" (Json.readList (Statement.read false)) []
    <*> r.optional "loc" (Span.read false) {}

end TemplateLint
