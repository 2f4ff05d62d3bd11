import TemplateLint.Header.Invocation
import TemplateLint.Lint.Rule

/-!
# The header rule

The rule looks at every invocation of a header component. The main header must not be given an action
as a plain text. A header operation must be given one of the arguments that it needs.

The helper that takes a component's name invokes that component with its own arguments. When the
helper stands as an argument of another call, the component also gets the named arguments of that call,
except for the one that the helper is the value of.
-/

namespace TemplateLint.Header

/-! ### What is invoked -/

/-- Whether an expression at an address is the sub-expression at the address `sub`. Where the two stand
decides this, and not what they look like. -/
def isSame (sub here : Address) (e : Expression) : Bool := e.isSub && here = sub

/-- The named arguments of a call at an address that go to the sub-expression at the address `sub`, if
that is one of the arguments: all but the one that it is the value of. -/
def bequest (c : Call) (here sub : Address) : List Pair :=
  let isParam := c.params.zipIdx.any fun (e, i) => isSame sub (here ++ [⟨.param, i⟩]) e
  let isValue := c.hash.pairs.zipIdx.any fun (p, i) => isSame sub (here ++ [⟨.pair, i⟩]) p.value
  if isParam || isValue then
    (c.hash.pairs.zipIdx.filter fun (p, i) => !isSame sub (here ++ [⟨.pair, i⟩]) p.value).map Prod.fst
  else []

/-- The named arguments that a stop inherits from the call around it. An element is no call. -/
def inherited (o : Occurrence) : List Pair :=
  match o.outer with
  | none => []
  | some outer => outer.node.call?.elim [] fun c => bequest c outer.address o.address

/-- The invocations that a stop of the walk stands for. -/
def invocations (o : Occurrence) : List Invocation :=
  match o.node with
  | .element e => [.ofElement e]
  | .block b => (Invocation.ofCall? b.call).toList
  | .mustache c =>
    match Invocation.ofCall? c with
    | none => []
    | some v => v :: if v.isComponentHelper then v.ofParams c.params else []
  | .sub c =>
    match Invocation.ofCall? c with
    | none => []
    | some v =>
      if v.isComponentHelper then (v.inherit ((inherited o).map .ofPair)).ofParams c.params else []

/-! ### What is wrong with it -/

/-- The finding that an argument holds an action as a plain text. -/
def plainAction (source : Source) (a : Argument) : Finding :=
  let quote := source.slice a.loc
  ⟨"Use of actions as Strings should be avoided. You used " ++ quote ++ ".", a.loc.start, quote⟩

/-- The finding that an operation is given none of the arguments that it needs. -/
def missingArguments (source : Source) (v : Invocation) (needed : List String) : Finding :=
  ⟨"Component \"" ++ v.component ++ "\" must implement all attrs: " ++ ", ".intercalate needed ++ ".",
    v.loc.start, source.slice v.loc⟩

/-- Findings about actions that the main header is given. -/
def checkActions (source : Source) (v : Invocation) : List Finding :=
  if v.isMain then
    (v.arguments.filter fun a => a.isNamed isAction && a.isLiteral).map (plainAction source)
  else []

/-- Findings about arguments that a header operation is not given. One of them is enough. -/
def checkRequirements (source : Source) (v : Invocation) : List Finding :=
  match v.isOperation, requirements? v.component with
  | true, some needed =>
    if v.arguments.any (·.isNamed needed.contains) then [] else [missingArguments source v needed]
  | _, _ => []

/-- Everything that is wrong with an invocation. -/
def checkInvocation (source : Source) (v : Invocation) : List Finding :=
  checkActions source v ++ checkRequirements source v

/-- Everything that is wrong at a stop of the walk. -/
def check (source : Source) (o : Occurrence) : List Finding :=
  (invocations o).flatMap (checkInvocation source)

/-! ### The rule -/

/-- The name of the header rule. -/
def ruleId : String := "header-main"

/-- The description of the header rule. -/
def info : RuleInfo where
  id := ruleId
  description := some ("Disallow string actions on the main header and require the mandatory " ++
    "arguments of header operation components")
  exampleBad := some ("<HeaderMain @close=\"close\" />\n" ++
    "\x7b\x7bwrapper.headerOperationIndex\x7d\x7d")
  exampleGood := some ("<HeaderMain @close=\x7b\x7bthis.close\x7d\x7d />\n" ++
    "\x7b\x7bwrapper.headerOperationIndex close=this.close\x7d\x7d")
  notes := ["Header operation components pass when any one of their listed attributes is present, " ++
    "although the message asks for all of them."]

/-- The header rule, switched on or off. -/
def rule (enabled : Bool) : Rule := ⟨info, enabled, check⟩

end TemplateLint.Header
