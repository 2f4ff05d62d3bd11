import TemplateLint.Template.Syntax
import TemplateLint.Text.Basic

/-!
# Invocations of components

A component is invoked by an element, by a mustache, by a block statement, or by the helper that takes
its name. An `Invocation` says which name is invoked with which arguments, whatever the way of writing.
-/

namespace TemplateLint.Header

/-! ### The words of the header components

The main header may be called or used as an element. The header operations belong to its family; they
are reached through the wrapper, and each of them has arguments that it needs. -/

/-- The arguments that hold an action and never a plain text. -/
def actions : List String := ["back", "close", "edit", "menu"]

/-- The header operations with the arguments that they need. -/
def operations : List (String × List String) :=
  [("headerOperationIndex", ["close"]),
    ("headerOperationConditions", ["edit", "close"]),
    ("headerOperationConfirmation", ["close"])]

/-- The names by which the main header is called. -/
def mainPaths : List String := ["wrapper.header", "header-main"]

def mainTags : List String := ["HeaderMain", "wrapper.header"]

/-- The helper that calls the component it is given by name. -/
def componentHelper : String := "component"

def isAction (name : String) : Bool := actions.contains name

/-- The arguments that a header operation needs. -/
def requirements? (operation : String) : Option (List String) := operations.lookup operation

/-- The names by which header operations are reached. -/
def familyNames : List String := operations.map fun (name, _) => "wrapper." ++ name

/-! ### Arguments of a component

A component takes its arguments as named arguments of a call, or as attributes of an element whose
names carry the sign `@`. An `Argument` is what the two ways of writing have in common. -/

/-- How the value of an argument is written. -/
inductive ValueKind where
  /-- A string in a call. -/
  | string
  /-- A text in an attribute. -/
  | text
  /-- A value that is bound or computed. -/
  | other
  deriving DecidableEq, Repr

/-- Whether a value is written down as it is. -/
def ValueKind.isLiteral : ValueKind → Bool
  | string => true
  | text => true
  | other => false

/-- An argument of a component, or a plain attribute, which is an argument without a name. -/
structure Argument where
  name : Option String
  kind : ValueKind
  loc : Span
  deriving DecidableEq, Repr

namespace Argument

def ofPair (p : Pair) : Argument where
  name := some p.key
  kind := match p.value with
    | .string .. => .string
    | _ => .other
  loc := p.loc

/-- The argument of an element. The name of a component's argument has the sign `@` somewhere, and the
first one does not belong to the name. -/
def ofAttribute (a : Attribute) : Argument :=
  if '@' ∈ a.name.toList then
    { name := some (Text.eraseFirst '@' a.name)
      kind := match a.value with
        | .text .. => .text
        | _ => .other
      loc := a.loc }
  else { name := none, kind := .other, loc := a.loc }

def isLiteral (a : Argument) : Bool := a.kind.isLiteral

/-- Whether the argument has a name that satisfies `p`. -/
def isNamed (p : String → Bool) (a : Argument) : Bool := a.name.any p

end Argument

/-! ### Invocations -/

/-- The way of writing an invocation. -/
inductive Form where
  | call
  | element
  deriving DecidableEq, Repr

/-- A component's name with the arguments that it is given. -/
structure Invocation where
  name : String
  form : Form
  arguments : List Argument
  loc : Span
  deriving DecidableEq, Repr

namespace Invocation

def ofElement (e : Element) : Invocation :=
  ⟨e.tag, .element, e.attributes.map .ofAttribute, e.loc⟩

/-- The invocation that a call is. There is none when the callee has no text. -/
def ofCall? (c : Call) : Option Invocation :=
  c.callee.nameText?.map fun name => ⟨name, .call, c.hash.pairs.map .ofPair, c.loc⟩

/-- The invocation of another name by a call with the same arguments. -/
def rename (name : String) (v : Invocation) : Invocation := { v with name, form := .call }

/-- The same invocation with more arguments. -/
def inherit (more : List Argument) (v : Invocation) : Invocation :=
  { v with arguments := v.arguments ++ more }

/-- The part of the name after its last dot. -/
def component (v : Invocation) : String :=
  String.ofList (v.name.toList.reverse.takeWhile (· ≠ '.')).reverse

def isMain (v : Invocation) : Bool :=
  match v.form with
  | .call => mainPaths.contains v.name
  | .element => mainTags.contains v.name

def isOperation (v : Invocation) : Bool := familyNames.contains v.name

/-- Whether the helper is invoked that takes a component's name. -/
def isComponentHelper (v : Invocation) : Bool := v.name = componentHelper

/-- The invocations that the helper makes of its parameters: one for each that has a text. -/
def ofParams (v : Invocation) (params : List Expression) : List Invocation :=
  params.filterMap fun e => e.nameText?.map fun name => v.rename name

end Invocation

end TemplateLint.Header
