import TemplateLint.Proofs.Findings

/-!
# Markup that the header rule does not see

Texts, comments, plain elements and plain block statements around other statements are neutral: the
header rule reports the same with them and without them. `Neutral` is the equational theory of such
markup. It has a law for each kind of it, and one for each place in which a body may stand.

What is to be shown is that the place of a statement does not matter to the rule. The walk hands every
stop over with its address and with the node around it. The rule looks at these for sub-expressions only,
and there only the way from the call around them counts. Neutral markup changes the addresses of what it
encloses, but no way from a call to its arguments.

* `findings_congr`: by induction over pieces, the same is found in a piece at two places that are `Alike`.
* `bodyFindings_element`, `bodyFindings_block`: what is found in a statement, part by part.
* `Neutral.findings_eq`: by induction over `Neutral`, neutral markup does not change what is found.
* `lintTemplate_neutral`: the same for the diagnostics of a template.
-/

namespace TemplateLint.Header

/-! ### Neutral markup -/

/-- The walk does not stop at the statement, and there is nothing in it. -/
def IsInert : Statement → Prop
  | .text .. => True
  | .comment .. => True
  | .unknown => True
  | _ => False

/-- Two bodies differ in neutral markup only. -/
inductive Neutral : List Statement → List Statement → Prop
  -- a text, a comment or a statement of no known kind may be put in
  | inert {s : Statement} : IsInert s → Neutral [] [s]
  -- statements may be put into an element that has no attributes and no modifiers, and whose tag is not
  -- one of the main header or of a header operation
  | element {tag : String} {run : List Statement} {loc : Span} :
      tag ∉ mainTags → tag ∉ familyNames → Neutral run [.element ⟨tag, [], [], run, loc⟩]
  -- statements may be divided among the two bodies of a block statement that has no parameters and no
  -- named arguments, and whose callee is a path other than those of the main header and the header
  -- operations; without a second body all of them are in the first one
  | block {name : String} {first second : List Statement} {inverse : Option Block}
      {nameLoc hashLoc loc programLoc : Span} :
      name ∉ mainPaths → name ∉ familyNames → inverse.elim [] Block.body = second →
      Neutral (first ++ second)
        [.block ⟨⟨.path name nameLoc, [], ⟨[], hashLoc⟩, loc⟩, ⟨first, programLoc⟩, inverse⟩]
  -- this may be done at any place of a body,
  | within {ss ss' : List Statement} (before after : List Statement) :
      Neutral ss ss' → Neutral (before ++ ss ++ after) (before ++ ss' ++ after)
  -- in an element,
  | children {e : Element} {ss : List Statement} :
      Neutral e.children ss → Neutral [.element e] [.element { e with children := ss }]
  -- in the first body of a block statement,
  | program {b : BlockStatement} {ss : List Statement} :
      Neutral b.program.body ss →
      Neutral [.block b] [.block { b with program := { b.program with body := ss } }]
  -- and in the second one
  | inverse {b : BlockStatement} {other : Block} {ss : List Statement} :
      b.inverse = some other → Neutral other.body ss →
      Neutral [.block b] [.block { b with inverse := some { other with body := ss } }]
  -- what may be put in may be taken out again,
  | symm {ss ss' : List Statement} : Neutral ss ss' → Neutral ss' ss
  -- and all this any number of times
  | trans {ss ss' ss'' : List Statement} : Neutral ss ss' → Neutral ss' ss'' → Neutral ss ss''

/-! ### What is found does not depend on the place -/

/-- Two places at which a sub-expression inherits the same: there is a call around none of them, or the
same call around both, and the way from it is the same. -/
inductive Alike : Option NodeRef → Address → Option NodeRef → Address → Prop
  | noCall {outer outer' : Option NodeRef} {here here' : Address} :
      outer.bind (·.node.call?) = none → outer'.bind (·.node.call?) = none → Alike outer here outer' here'
  | call (r r' : NodeRef) (w : Address) :
      r.node.call? = r'.node.call? → Alike (some r) (r.address ++ w) (some r') (r'.address ++ w)

namespace Alike

variable {outer outer' : Option NodeRef} {here here' : Address}

theorem step (h : Alike outer here outer' here') (s : Step) :
    Alike outer (here ++ [s]) outer' (here' ++ [s]) := by
  cases h with
  | noCall h h' => exact .noCall h h'
  | call r r' w h =>
    rw [List.append_assoc, List.append_assoc]
    exact .call _ _ (w ++ [s]) h

theorem inherited_eq (h : Alike outer here outer' here') (n n' : Node) :
    inherited ⟨⟨here, n⟩, outer⟩ = inherited ⟨⟨here', n'⟩, outer'⟩ := by
  have hnone : ∀ (outer : Option NodeRef) here n, outer.bind (·.node.call?) = none →
      inherited ⟨⟨here, n⟩, outer⟩ = [] := by
    intro outer here n hcall
    cases outer with
    | none => rfl
    | some r =>
      rw [Option.bind_some] at hcall
      simp only [inherited, hcall, Option.elim_none]
  cases h with
  | noCall h h' => rw [hnone _ _ _ h, hnone _ _ _ h']
  | call r r' w h => simp only [inherited, h, bequest_append]

end Alike

/-- The piece is in a call, or is the call of a modifier. -/
def IsInCall : Piece → Prop
  | .modifier _ => True
  | .expression _ => True
  | _ => False

/-- What holds for the places of a piece holds for the places of what it holds. -/
theorem alike_child {p q : Piece} {s : Step} {outer outer' : Option NodeRef} {here here' : Address}
    (hq : p.child? s = some q) (h : IsInCall p → Alike outer here outer' here') (hin : IsInCall q) :
    Alike ((p.ref? here).or outer) (here ++ [s]) ((p.ref? here').or outer') (here' ++ [s]) := by
  have hnode : ∀ n, p.node? = some n →
      Alike ((p.ref? here).or outer) (here ++ [s]) ((p.ref? here').or outer') (here' ++ [s]) := by
    intro n hn
    rw [Piece.ref?, Piece.ref?, hn]
    exact .call ⟨here, n⟩ ⟨here', n⟩ [s] rfl
  cases Piece.holds_of_child? hq with
  | body | value | child | part | program | inverse => cases hin
  | modifier => exact hnode _ rfl
  | argument hc =>
    rcases Piece.call?_eq_some hc with ⟨n, hn, -⟩ | rfl
    · exact hnode n hn
    · exact (h trivial).step s

section Findings

variable (source : Source)

/-- What the rule finds in a piece at an address, which stands in the node `outer`, where there is one. -/
def findings (p : Piece) (outer : Option NodeRef) (here : Address) : List Finding :=
  (p.occurrences outer here).flatMap (check source)

/-- Of its place, a stop at a node that is no sub-expression shows nothing. -/
theorem check_congr {n : Node} {outer outer' : Option NodeRef} {here here' : Address}
    (h : ∀ c, n = .sub c → Alike outer here outer' here') :
    check source ⟨⟨here, n⟩, outer⟩ = check source ⟨⟨here', n⟩, outer'⟩ := by
  cases n with
  | element | mustache | block => rfl
  | sub c => simp only [check, invocations, (h c rfl).inherited_eq (.sub c) (.sub c)]

/-- **The same is found at both of two places.** -/
theorem findings_congr {p : Piece} {outer outer' : Option NodeRef} {here here' : Address}
    (hp : p.Fits outer here) (hp' : p.Fits outer' here')
    (h : IsInCall p → Alike outer here outer' here') :
    findings source p outer here = findings source p outer' here' := by
  induction p using Piece.induct generalizing outer outer' here here' with
  | step p ih =>
    simp only [findings, Piece.occurrences_eq hp, Piece.occurrences_eq hp', List.flatMap_append,
      List.flatMap_map, List.flatMap_assoc]
    congr 1
    · -- the stop at the piece itself
      rw [Piece.ref?, Piece.ref?]
      cases hn : p.node? with
      | none => rfl
      | some n =>
        simp only [Option.map_some, Option.toList_some, List.flatMap_singleton]
        refine check_congr source ?_
        rintro c rfl
        rw [Piece.eq_of_node?_sub hn] at h
        exact h trivial
    · apply List.flatMap_congr
      rintro ⟨s, q⟩ hy
      have hq := Piece.child?_of_mem_children hy
      have hholds := Piece.holds_of_child? hq
      exact ih s q hq (hholds.fits hp) (hholds.fits hp') (alike_child hq h)

/-! ### Findings in the parts of a template -/

/-- An element that stands for any other. -/
def anyElement : NodeRef := ⟨[], .element ⟨"", [], [], [], {}⟩⟩

/-- What the rule finds in the statements of a body. -/
def bodyFindings (ss : List Statement) : List Finding :=
  ss.flatMap fun s => findings source (.statement s) none []

/-- What the rule finds in the value of an attribute. -/
def valueFindings (v : AttributeValue) : List Finding := findings source (.value v) (some anyElement) []

/-- What the rule finds in a modifier. -/
def modifierFindings (c : Call) : List Finding := findings source (.modifier c) (some anyElement) []

/-- What the rule finds in the callee and the arguments of a call that is a node. -/
def argumentFindings (c : Call) : List Finding :=
  findings source (.modifier c) (some ⟨[], .mustache c⟩) []

variable (here : Address)

theorem flatMap_bodyOccurrences (outer : Option NodeRef) (b : Branch) (ss : List Statement) :
    (bodyOccurrences outer here b 0 ss).flatMap (check source) = bodyFindings source ss := by
  rw [bodyOccurrences_eq, List.flatMap_assoc, bodyFindings, ← List.flatMap_zipIdx_fst ss 0]
  apply List.flatMap_congr
  intro x _
  exact findings_congr source (p := .statement x.1) trivial trivial nofun

theorem flatMap_valueOccurrences (r : NodeRef) (v : AttributeValue) :
    (v.occurrences r here).flatMap (check source) = valueFindings source v := by
  show findings source (.value v) (some r) here = findings source (.value v) (some anyElement) []
  exact findings_congr source rfl rfl nofun

theorem flatMap_modifierOccurrences {r : NodeRef} (hr : r.node.call? = none) (c : Call) :
    (c.occurrences r here).flatMap (check source) = modifierFindings source c := by
  show findings source (.modifier c) (some r) here = findings source (.modifier c) (some anyElement) []
  exact findings_congr source rfl rfl fun _ => .noCall hr rfl

theorem flatMap_argumentOccurrences {n : Node} {c : Call} (hn : n.call? = some c) :
    (c.occurrences ⟨here, n⟩ here).flatMap (check source) = argumentFindings source c := by
  have halike : Alike (some ⟨here, n⟩) (here ++ []) (some ⟨[], .mustache c⟩) ([] ++ []) :=
    .call ⟨here, n⟩ ⟨[], .mustache c⟩ [] hn
  rw [List.append_nil] at halike
  show findings source (.modifier c) (some ⟨here, n⟩) here =
    findings source (.modifier c) (some ⟨[], .mustache c⟩) []
  exact findings_congr source rfl rfl fun _ => halike

theorem bodyFindings_append (ss ss' : List Statement) :
    bodyFindings source (ss ++ ss') = bodyFindings source ss ++ bodyFindings source ss' :=
  List.flatMap_append

/-- What is found in an element: something about the element itself, and what is found in its attributes,
its modifiers and its children. -/
theorem bodyFindings_element (e : Element) :
    bodyFindings source [.element e] =
      checkInvocation source (.ofElement e) ++
        e.attributes.flatMap (fun a => valueFindings source a.value) ++
        e.modifiers.flatMap (modifierFindings source) ++ bodyFindings source e.children := by
  have hown : check source ⟨⟨[], .element e⟩, none⟩ = checkInvocation source (.ofElement e) := by
    simp [check, invocations]
  have hmodifier : ∀ here c, (Call.occurrences ⟨[], .element e⟩ here c).flatMap (check source) =
      modifierFindings source c := fun here => flatMap_modifierOccurrences source here rfl
  rw [bodyFindings, List.flatMap_singleton, findings, Piece.occurrences_statement, Statement.occurrences,
    List.flatMap_cons, hown]
  obtain ⟨tag, attributes, modifiers, children, loc⟩ := e
  simp only [Element.occurrences, List.flatMap_append, List.flatMap_assoc, flatMap_valueOccurrences,
    hmodifier, flatMap_bodyOccurrences, List.append_assoc]
  rw [List.flatMap_zipIdx_fst attributes 0 fun a => valueFindings source a.value,
    List.flatMap_zipIdx_fst modifiers 0 (modifierFindings source)]

/-- What is found in a block statement: something about its call, and what is found in its arguments and
in its two bodies. -/
theorem bodyFindings_block (b : BlockStatement) :
    bodyFindings source [.block b] =
      (Invocation.ofCall? b.call).toList.flatMap (checkInvocation source) ++
        argumentFindings source b.call ++ bodyFindings source b.program.body ++
        bodyFindings source (b.inverse.elim [] Block.body) := by
  have hargument : (b.call.occurrences ⟨[], .block b⟩ []).flatMap (check source) =
      argumentFindings source b.call := flatMap_argumentOccurrences source [] rfl
  rw [bodyFindings, List.flatMap_singleton, findings, Piece.occurrences_statement, Statement.occurrences,
    List.flatMap_cons]
  obtain ⟨call, ⟨program, programLoc⟩, inverse⟩ := b
  have hinverse : (inverseOccurrences ⟨[], .block ⟨call, ⟨program, programLoc⟩, inverse⟩⟩ inverse).flatMap
      (check source) = bodyFindings source (inverse.elim [] Block.body) := by
    cases inverse with
    | none => rfl
    | some other =>
      obtain ⟨body, loc⟩ := other
      exact flatMap_bodyOccurrences source [] _ .inverse body
  simp only [BlockStatement.occurrences, Block.occurrences, List.flatMap_append, hargument, hinverse,
    flatMap_bodyOccurrences, List.append_assoc]
  rfl

theorem bodyFindings_children_congr (e : Element) {ss : List Statement}
    (h : bodyFindings source e.children = bodyFindings source ss) :
    bodyFindings source [.element e] = bodyFindings source [.element { e with children := ss }] := by
  rw [bodyFindings_element, bodyFindings_element, h]
  rfl

theorem bodyFindings_block_congr {b b' : BlockStatement} (hcall : b.call = b'.call)
    (hprogram : bodyFindings source b.program.body = bodyFindings source b'.program.body)
    (hinverse : bodyFindings source (b.inverse.elim [] Block.body) =
      bodyFindings source (b'.inverse.elim [] Block.body)) :
    bodyFindings source [.block b] = bodyFindings source [.block b'] := by
  rw [bodyFindings_block, bodyFindings_block, hprogram, hinverse, hcall]

theorem checkInvocation_eq_nil {v : Invocation} (hmain : v.isMain = false)
    (hop : v.name ∉ familyNames) : checkInvocation source v = [] := by
  have hop' : v.isOperation = false := by simpa [Invocation.isOperation] using hop
  simp [checkInvocation, checkActions, checkRequirements, hmain, hop']

theorem bodyFindings_plainElement {tag : String} (hmain : tag ∉ mainTags) (hop : tag ∉ familyNames)
    (run : List Statement) (loc : Span) :
    bodyFindings source [.element ⟨tag, [], [], run, loc⟩] = bodyFindings source run := by
  have hnone : checkInvocation source (.ofElement ⟨tag, [], [], run, loc⟩) = [] := by
    apply checkInvocation_eq_nil
    · simpa [Invocation.isMain, Invocation.ofElement] using hmain
    · exact hop
  rw [bodyFindings_element, hnone]
  rfl

theorem bodyFindings_plainBlock {name : String} (hmain : name ∉ mainPaths) (hop : name ∉ familyNames)
    (first : List Statement) (inverse : Option Block) (nameLoc hashLoc loc programLoc : Span) :
    bodyFindings source
        [.block ⟨⟨.path name nameLoc, [], ⟨[], hashLoc⟩, loc⟩, ⟨first, programLoc⟩, inverse⟩] =
      bodyFindings source (first ++ inverse.elim [] Block.body) := by
  have hnone : checkInvocation source ⟨name, .call, [], loc⟩ = [] := by
    apply checkInvocation_eq_nil
    · simpa [Invocation.isMain] using hmain
    · exact hop
  have harguments : argumentFindings source ⟨.path name nameLoc, [], ⟨[], hashLoc⟩, loc⟩ = [] := by
    simp [argumentFindings, findings, Call.occurrences, Expression.occurrences, paramOccurrences,
      Hash.occurrences, pairOccurrences]
  rw [bodyFindings_block, bodyFindings_append, harguments]
  simp [Invocation.ofCall?, Expression.nameText?, hnone]

/-! ### The whole theory -/

theorem Neutral.findings_eq {ss ss' : List Statement} (h : Neutral ss ss') :
    bodyFindings source ss = bodyFindings source ss' := by
  -- one case for each law
  induction h with
  | @inert s hs =>
    cases s with
    | text | comment | unknown => rfl
    | element | mustache | block => cases hs
  | element hmain hop => exact (bodyFindings_plainElement source hmain hop ..).symm
  | block hmain hop hsecond =>
    subst hsecond
    exact (bodyFindings_plainBlock source hmain hop ..).symm
  | within before after _ ih => simp only [bodyFindings_append, ih]
  | children _ ih => exact bodyFindings_children_congr source _ ih
  | program _ ih => exact bodyFindings_block_congr source rfl ih rfl
  | inverse hother _ ih =>
    refine bodyFindings_block_congr source rfl rfl ?_
    rw [hother]
    exact ih
  | symm _ ih => exact ih.symm
  | trans _ _ ih ih' => exact ih.trans ih'

end Findings

theorem lintTemplate_eq_bodyFindings {e : Engine} {file : String} (h : e.active file = [rule true])
    (t : Template) (source : Source) :
    e.lintTemplate t source file = (bodyFindings source t.body).map (ofFinding e file) := by
  have hcheck : check source = fun o => (invocations o).flatMap (checkInvocation source) := rfl
  rw [lintTemplate_eq h, ← List.map_flatMap, List.flatMap_assoc, ← hcheck, Template.occurrences,
    flatMap_bodyOccurrences]

/-- **The header rule does not see neutral markup.** Templates that differ in neutral markup only have the
same diagnostics in the same order. -/
theorem lintTemplate_neutral {e : Engine} {file : String} (h : e.active file = [rule true])
    {t t' : Template} (hneutral : Neutral t.body t'.body) (source : Source) :
    e.lintTemplate t source file = e.lintTemplate t' source file := by
  rw [lintTemplate_eq_bodyFindings h, lintTemplate_eq_bodyFindings h, hneutral.findings_eq]

/-- A header in a call, and an operation in a block statement. -/
def plainPage : Template := ⟨headerInCall.body ++ operationInBlock.body, {}⟩

/-- The two statements in the two bodies of a block statement, this in an element, and a comment. -/
def markedUpPage : Template :=
  let branches : BlockStatement :=
    ⟨⟨.path "if" {}, [], ⟨[], {}⟩, {}⟩, ⟨headerInCall.body, {}⟩, some ⟨operationInBlock.body, {}⟩⟩
  ⟨[.comment .markup "page" {}, .element ⟨"div", [], [], [.block branches], {}⟩], {}⟩

theorem neutral_markedUpPage : Neutral plainPage.body markedUpPage.body := by
  have hblock : Neutral (headerInCall.body ++ operationInBlock.body)
      [.block ⟨⟨.path "if" {}, [], ⟨[], {}⟩, {}⟩, ⟨headerInCall.body, {}⟩,
        some ⟨operationInBlock.body, {}⟩⟩] :=
    .block (by decide) (by decide) rfl
  have helement : ∀ ss, Neutral ss [.element ⟨"div", [], [], ss, {}⟩] :=
    fun _ => .element (by decide) (by decide)
  have hcomment : ∀ s, Neutral [s] [.comment .markup "page" {}, s] :=
    fun s => .within [] [s] (.inert (s := .comment .markup "page" {}) trivial)
  exact (hblock.trans (helement _)).trans (hcomment _)

theorem lintTemplate_neutral_markedUpPage :
    (Engine.mk {} [rule true]).active "page.hbs" = [rule true] ∧
    Neutral plainPage.body markedUpPage.body ∧
    (Engine.mk {} [rule true]).lintTemplate plainPage .empty "page.hbs" =
      (Engine.mk {} [rule true]).lintTemplate markedUpPage .empty "page.hbs" ∧
    ((Engine.mk {} [rule true]).lintTemplate markedUpPage .empty "page.hbs").length = 3 :=
  ⟨rfl, neutral_markedUpPage, lintTemplate_neutral rfl neutral_markedUpPage .empty, by decide +kernel⟩

end TemplateLint.Header
