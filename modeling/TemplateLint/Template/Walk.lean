import TemplateLint.Template.Syntax

/-!
# The walk through a template

The walk stops at every element, mustache, block statement and sub-expression, a node before what it
holds. An element holds its attributes, its modifiers and its children, a call its callee, its
parameters and the values of its named arguments, and a block statement after those its two bodies.

Every stop is an `Occurrence`. It refers to a node of the template and to the closest node around it at
which the walk stops too. A reference (`NodeRef`) is a node together with its address in the template, so
that equal nodes at different places are told apart. Modifiers and concatenations are no stops, and what
they hold belongs to the element.
-/

namespace TemplateLint

/-! ### Addresses -/

/-- The lists of pieces that a piece of a template may hold. -/
inductive Branch where
  /-- The statements of a template. -/
  | body
  /-- The values of an element's attributes. -/
  | value
  | part
  | modifier
  | child
  /-- The callee of a call, which is alone in this list. -/
  | callee
  /-- The positional parameters of a call. -/
  | param
  /-- The values of a call's named arguments. -/
  | pair
  /-- The statements in the first body of a block statement. -/
  | program
  /-- The statements in its second body. -/
  | inverse
  deriving DecidableEq, Repr

/-- The way from a piece to one that it holds. -/
structure Step where
  branch : Branch
  index : Nat
  deriving DecidableEq, Repr

/-- The way from a template to one of its pieces. -/
abbrev Address := List Step

/-! ### Nodes -/

/-- A node at which the walk stops. -/
inductive Node where
  | element (e : Element)
  | mustache (call : Call)
  | block (b : BlockStatement)
  | sub (call : Call)

namespace Node

def kind : Node → String
  | element _ => "ElementNode"
  | mustache _ => "MustacheStatement"
  | block _ => "BlockStatement"
  | sub _ => "SubExpression"

/-- The call that a node is; an element is none. -/
def call? : Node → Option Call
  | element _ => none
  | mustache c => some c
  | block b => some b.call
  | sub c => some c

/-- The tag of an element, or the text of a callee that has one. -/
def label : Node → Option String
  | element e => some e.tag
  | mustache c => c.callee.nameText?
  | block b => b.call.callee.nameText?
  | sub c => c.callee.nameText?

def loc : Node → Span
  | element e => e.loc
  | mustache c => c.loc
  | block b => b.call.loc
  | sub c => c.loc

end Node

/-- A node of a template and the address at which it stands. -/
structure NodeRef where
  address : Address
  node : Node

/-- A stop of the walk, with the closest node around it at which the walk stops too. -/
structure Occurrence extends NodeRef where
  outer : Option NodeRef

/-- The node around a stop, apart from its address. -/
def Occurrence.parent (o : Occurrence) : Option Node := o.outer.map NodeRef.node

/-! ### Inside of calls -/

mutual

/-- The stops in an expression at an address, which stands in the node `outer`. -/
def Expression.occurrences (outer : NodeRef) (here : Address) : Expression → List Occurrence
  | .sub c => ⟨⟨here, .sub c⟩, some outer⟩ :: Call.occurrences ⟨here, .sub c⟩ here c
  | _ => []

/-- The stops in the callee and in the arguments of a call at an address. The call belongs to the node
`outer`: it is that node, or a modifier of it. -/
def Call.occurrences (outer : NodeRef) (here : Address) : Call → List Occurrence
  | ⟨callee, params, hash, _⟩ =>
    callee.occurrences outer (here ++ [⟨.callee, 0⟩]) ++ paramOccurrences outer here 0 params
      ++ hash.occurrences outer here

/-- The stops in the parameters from number `index` on. -/
def paramOccurrences (outer : NodeRef) (here : Address) (index : Nat) : List Expression → List Occurrence
  | [] => []
  | e :: es =>
    e.occurrences outer (here ++ [⟨.param, index⟩]) ++ paramOccurrences outer here (index + 1) es

def Hash.occurrences (outer : NodeRef) (here : Address) : Hash → List Occurrence
  | ⟨pairs, _⟩ => pairOccurrences outer here 0 pairs

/-- The stops in the named arguments from number `index` on. -/
def pairOccurrences (outer : NodeRef) (here : Address) (index : Nat) : List Pair → List Occurrence
  | [] => []
  | p :: ps => p.occurrences outer (here ++ [⟨.pair, index⟩]) ++ pairOccurrences outer here (index + 1) ps

/-- The stops in the value of a named argument, which stands at the address. -/
def Pair.occurrences (outer : NodeRef) (here : Address) : Pair → List Occurrence
  | ⟨_, value, _⟩ => value.occurrences outer here

end

/-- A mustache and the stops in it. -/
def mustacheOccurrences (outer : Option NodeRef) (here : Address) (c : Call) : List Occurrence :=
  ⟨⟨here, .mustache c⟩, outer⟩ :: c.occurrences ⟨here, .mustache c⟩ here

/-! ### Inside of elements -/

mutual

/-- The stops in an attribute value of the element `outer`. -/
def AttributeValue.occurrences (outer : NodeRef) (here : Address) : AttributeValue → List Occurrence
  | .mustache c => mustacheOccurrences (some outer) here c
  | .concat parts _ => partOccurrences outer here 0 parts
  | .text .. => []
  | .unknown => []

/-- The stops in the parts of a concatenation from number `index` on. -/
def partOccurrences (outer : NodeRef) (here : Address) (index : Nat) :
    List AttributeValue → List Occurrence
  | [] => []
  | v :: vs => v.occurrences outer (here ++ [⟨.part, index⟩]) ++ partOccurrences outer here (index + 1) vs

end

mutual

/-- A statement and the stops in it. -/
def Statement.occurrences (outer : Option NodeRef) (here : Address) : Statement → List Occurrence
  | .element e => ⟨⟨here, .element e⟩, outer⟩ :: Element.occurrences ⟨here, .element e⟩ e
  | .mustache c => mustacheOccurrences outer here c
  | .block b => ⟨⟨here, .block b⟩, outer⟩ :: BlockStatement.occurrences ⟨here, .block b⟩ b
  | .text .. => []
  | .comment .. => []
  | .unknown => []

/-- The stops in the statements from number `index` on, which are a branch of the piece at the address. -/
def bodyOccurrences (outer : Option NodeRef) (here : Address) (branch : Branch) (index : Nat) :
    List Statement → List Occurrence
  | [] => []
  | s :: ss =>
    s.occurrences outer (here ++ [⟨branch, index⟩]) ++ bodyOccurrences outer here branch (index + 1) ss

/-- The stops in an element, which is the node `self`. -/
def Element.occurrences (self : NodeRef) : Element → List Occurrence
  | ⟨_, attributes, modifiers, children, _⟩ =>
    (attributes.zipIdx.flatMap fun (a, i) => a.value.occurrences self (self.address ++ [⟨.value, i⟩]))
      ++ (modifiers.zipIdx.flatMap fun (c, i) => c.occurrences self (self.address ++ [⟨.modifier, i⟩]))
      ++ bodyOccurrences (some self) self.address .child 0 children

/-- The stops in a block statement, which is the node `self`. -/
def BlockStatement.occurrences (self : NodeRef) : BlockStatement → List Occurrence
  | ⟨call, program, inverse⟩ =>
    call.occurrences self self.address ++ program.occurrences self .program
      ++ inverseOccurrences self inverse

def inverseOccurrences (outer : NodeRef) : Option Block → List Occurrence
  | none => []
  | some b => b.occurrences outer .inverse

/-- The stops in a body that is a branch of the node `outer`. -/
def Block.occurrences (outer : NodeRef) (branch : Branch) : Block → List Occurrence
  | ⟨body, _⟩ => bodyOccurrences (some outer) outer.address branch 0 body

end

/-- All stops of the walk through a template, in its order. -/
def Template.occurrences (t : Template) : List Occurrence := bodyOccurrences none [] .body 0 t.body

end TemplateLint
