import TemplateLint.Template.Syntax

/-!
# Templates as JSON values

Every field of a node is written, also where it has its default. The kinds of statements, expressions
and attribute values are named by a member `type`; a node of no known kind is nothing but that member.
-/

namespace TemplateLint

/-- A node of a kind, with its fields. -/
def tagged (kind : String) (fields : List (String × Json)) : Json :=
  .object (("type", .string kind) :: fields)

def LiteralKind.name : LiteralKind → String
  | boolean => "BooleanLiteral"
  | number => "NumberLiteral"
  | null => "NullLiteral"
  | undefined => "UndefinedLiteral"

def CommentKind.name : CommentKind → String
  | markup => "CommentStatement"
  | mustache => "MustacheCommentStatement"

mutual

def Expression.toJson : Expression → Json
  | .path name loc =>
    tagged "PathExpression" [("original", .string name), ("loc", loc.toJson)]
  | .sub call => tagged "SubExpression" call.fields
  | .string value loc => tagged "StringLiteral" [("value", .string value), ("loc", loc.toJson)]
  | .literal kind value loc => tagged kind.name [("value", value), ("loc", loc.toJson)]
  | .unknown => tagged "Unknown" []

/-- The fields of a call. -/
def Call.fields : Call → List (String × Json)
  | ⟨callee, params, hash, loc⟩ =>
    [("path", callee.toJson), ("params", .array (expressionsJson params)), ("hash", hash.toJson),
      ("loc", loc.toJson)]

def expressionsJson : List Expression → List Json
  | [] => []
  | e :: es => e.toJson :: expressionsJson es

def Hash.toJson : Hash → Json
  | ⟨pairs, loc⟩ => .object [("pairs", .array (pairsJson pairs)), ("loc", loc.toJson)]

def pairsJson : List Pair → List Json
  | [] => []
  | p :: ps => p.toJson :: pairsJson ps

def Pair.toJson : Pair → Json
  | ⟨key, value, loc⟩ =>
    .object [("key", .string key), ("value", value.toJson), ("loc", loc.toJson)]

end

mutual

def AttributeValue.toJson : AttributeValue → Json
  | .text chars loc => tagged "TextNode" [("chars", .string chars), ("loc", loc.toJson)]
  | .mustache call => tagged "MustacheStatement" call.fields
  | .concat parts loc =>
    tagged "ConcatStatement" [("parts", .array (attributeValuesJson parts)), ("loc", loc.toJson)]
  | .unknown => tagged "Unknown" []

def attributeValuesJson : List AttributeValue → List Json
  | [] => []
  | v :: vs => v.toJson :: attributeValuesJson vs

end

def Attribute.toJson (a : Attribute) : Json :=
  .object [("name", .string a.name), ("value", a.value.toJson), ("loc", a.loc.toJson)]

/-- A modifier of an element as a JSON value. -/
def Call.toJson (c : Call) : Json := .object c.fields

mutual

def Statement.toJson : Statement → Json
  | .element e => tagged "ElementNode" e.fields
  | .mustache call => tagged "MustacheStatement" call.fields
  | .block b => tagged "BlockStatement" b.fields
  | .text chars loc => tagged "TextNode" [("chars", .string chars), ("loc", loc.toJson)]
  | .comment kind value loc => tagged kind.name [("value", .string value), ("loc", loc.toJson)]
  | .unknown => tagged "Unknown" []

def statementsJson : List Statement → List Json
  | [] => []
  | s :: ss => s.toJson :: statementsJson ss

def Element.fields : Element → List (String × Json)
  | ⟨tag, attributes, modifiers, children, loc⟩ =>
    [("tag", .string tag), ("attributes", .array (attributes.map Attribute.toJson)),
      ("modifiers", .array (modifiers.map Call.toJson)),
      ("children", .array (statementsJson children)), ("loc", loc.toJson)]

def BlockStatement.fields : BlockStatement → List (String × Json)
  | ⟨⟨callee, params, hash, loc⟩, program, inverse⟩ =>
    [("path", callee.toJson), ("params", .array (expressionsJson params)), ("hash", hash.toJson),
      ("program", program.toJson), ("inverse", inverseJson inverse), ("loc", loc.toJson)]

/-- A second body, or null when there is none. -/
def inverseJson : Option Block → Json
  | none => .null
  | some b => b.toJson

def Block.toJson : Block → Json
  | ⟨body, loc⟩ => .object [("body", .array (statementsJson body)), ("loc", loc.toJson)]

end

def Template.toJson (t : Template) : Json :=
  .object [("body", .array (statementsJson t.body)), ("loc", t.loc.toJson)]

end TemplateLint
