import TemplateLint.Template.Source

/-!
# Template syntax

A template is a tree of statements. Elements carry attributes, modifiers and children. Mustaches,
block statements, sub-expressions and modifiers are all calls: a callee, positional parameters and
named arguments, the pairs of a hash. Kinds of nodes that nothing here looks at are `unknown`.
-/

namespace TemplateLint

/-- The kinds of literals other than strings. -/
inductive LiteralKind where
  | boolean
  | number
  | null
  | undefined
  deriving DecidableEq, Repr

/-- The two ways to write a comment. -/
inductive CommentKind where
  | markup
  | mustache
  deriving DecidableEq, Repr

mutual

inductive Expression where
  | path (name : String) (loc : Span)
  | sub (call : Call)
  | string (value : String) (loc : Span)
  | literal (kind : LiteralKind) (value : Json) (loc : Span)
  | unknown

/-- A callee with its positional parameters and named arguments. -/
structure Call where
  callee : Expression
  params : List Expression
  hash : Hash
  loc : Span

/-- The named arguments of a call. -/
structure Hash where
  pairs : List Pair
  loc : Span

structure Pair where
  key : String
  value : Expression
  loc : Span

end

/-- The value of an element's attribute, or a part of one. -/
inductive AttributeValue where
  | text (chars : String) (loc : Span)
  | mustache (call : Call)
  | concat (parts : List AttributeValue) (loc : Span)
  | unknown

structure Attribute where
  name : String
  value : AttributeValue
  loc : Span

mutual

inductive Statement where
  | element (e : Element)
  | mustache (call : Call)
  | block (b : BlockStatement)
  | text (chars : String) (loc : Span)
  | comment (kind : CommentKind) (value : String) (loc : Span)
  | unknown

/-- An element with its children. -/
structure Element where
  tag : String
  attributes : List Attribute
  modifiers : List Call
  children : List Statement
  loc : Span

/-- A call with a body, and possibly a second body for the other case. -/
structure BlockStatement where
  call : Call
  program : Block
  inverse : Option Block

/-- A body of statements. -/
structure Block where
  body : List Statement
  loc : Span

end

/-- The root of a template. -/
structure Template where
  body : List Statement
  loc : Span

namespace Expression

/-- The text of a path, or of a string. It is what the `component` helper resolves. -/
def nameText? : Expression → Option String
  | path s _ => some s
  | string s _ => some s
  | _ => none

def isSub : Expression → Bool
  | sub _ => true
  | _ => false

end Expression

/-! ### Nodes without a recorded place -/

instance : Inhabited Expression := ⟨.unknown⟩

instance : Inhabited Hash := ⟨⟨[], {}⟩⟩

instance : Inhabited Block := ⟨⟨[], {}⟩⟩

instance : Inhabited Template := ⟨⟨[], {}⟩⟩

namespace Call

def ofCallee (callee : Expression) : Call := ⟨callee, [], default, {}⟩

def addParam (c : Call) (param : Expression) : Call := { c with params := c.params ++ [param] }

def addPair (c : Call) (pair : Pair) : Call :=
  { c with hash := { c.hash with pairs := c.hash.pairs ++ [pair] } }

end Call

namespace Element

/-- An element without attributes, modifiers and children. -/
def ofTag (tag : String) : Element := ⟨tag, [], [], [], {}⟩

def addAttribute (e : Element) (a : Attribute) : Element :=
  { e with attributes := e.attributes ++ [a] }

end Element

end TemplateLint
