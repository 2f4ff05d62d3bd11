import TemplateLint.Proofs.NeutralMarkup

/-!
# Following the advice

The header rule asks for actions that are bound and not written as texts. One template is another with its
plain arguments bound (`Template.Bound`), when every string among the named arguments of a call has become a
path, and every text of an attribute has become a mustache around a path, at every depth. Then the complaints
about plain actions are gone, and all others are what they were.

To the rule, binding only changes the kinds of arguments (`Argument.bound`). So the invocations of a call
correspond to those of the bound call one by one, and a mustache that has taken the place of a text has none
that matters.

* `check_bound`: what is found at a stop, from the invocations there.
* `callFindings_bound`, `valueFindings_bound`, `bodyFindings_bound`: what is found in a tree, by induction.
* `lintTemplate_bound`: the diagnostics of the two templates.
-/

namespace TemplateLint

/-! ### Templates with their plain arguments bound -/

mutual

/-- The second expression is the first one with the strings among the named arguments in it bound. -/
def Expression.Bound : Expression → Expression → Prop
  | .sub c, e' => ∃ c', e' = .sub c' ∧ c.Bound c'
  | e, e' => e' = e
termination_by structural x => x

def Call.Bound : Call → Call → Prop
  | ⟨callee, params, hash, loc⟩, c' =>
    callee.Bound c'.callee ∧ paramsBound params c'.params ∧ hash.Bound c'.hash ∧ c'.loc = loc
termination_by structural x => x

def paramsBound : List Expression → List Expression → Prop
  | [], es' => es' = []
  | e :: es, es' => ∃ e' rest, es' = e' :: rest ∧ e.Bound e' ∧ paramsBound es rest
termination_by structural x => x

def Hash.Bound : Hash → Hash → Prop
  | ⟨pairs, loc⟩, h' => pairsBound pairs h'.pairs ∧ h'.loc = loc
termination_by structural x => x

def pairsBound : List Pair → List Pair → Prop
  | [], ps' => ps' = []
  | p :: ps, ps' => ∃ p' rest, ps' = p' :: rest ∧ p.Bound p' ∧ pairsBound ps rest
termination_by structural x => x

/-- A string has become a path; in any other value there may be calls with arguments of their own. -/
def Pair.Bound : Pair → Pair → Prop
  | ⟨key, value, loc⟩, p' =>
    p'.key = key ∧ p'.loc = loc ∧
      (((∃ s l, value = .string s l) ∧ ∃ name l, p'.value = .path name l) ∨
        ((∀ s l, value ≠ .string s l) ∧ value.Bound p'.value))
termination_by structural x => x

end

/-- A mustache around a path, without arguments, and not around a name of a header component. -/
def AttributeValue.IsBoundText (v : AttributeValue) : Prop :=
  ∃ name nameLoc hashLoc loc, v = .mustache ⟨.path name nameLoc, [], ⟨[], hashLoc⟩, loc⟩ ∧
    name ∉ Header.mainPaths ∧ name ∉ Header.familyNames

mutual

/-- The second value is the first one with plain arguments in it bound. The text parts of a concatenation are
no arguments, and may be bound or not. -/
def AttributeValue.Bound : AttributeValue → AttributeValue → Prop
  | .mustache c, v' => ∃ c', v' = .mustache c' ∧ c.Bound c'
  | .concat parts loc, v' => ∃ parts', v' = .concat parts' loc ∧ partsBound parts parts'
  | .text s loc, v' => v' = .text s loc ∨ v'.IsBoundText
  | .unknown, v' => v' = .unknown
termination_by structural x => x

def partsBound : List AttributeValue → List AttributeValue → Prop
  | [], vs' => vs' = []
  | v :: vs, vs' => ∃ v' rest, vs' = v' :: rest ∧ v.Bound v' ∧ partsBound vs rest
termination_by structural x => x

end

/-- A text that is the value of an attribute is bound. -/
def Attribute.Bound (a a' : Attribute) : Prop :=
  a'.name = a.name ∧ a'.loc = a.loc ∧ a.value.Bound a'.value ∧ ∀ s l, a'.value ≠ .text s l

mutual

/-- The second statement is the first one with plain arguments in it bound. -/
def Statement.Bound : Statement → Statement → Prop
  | .element e, s' => ∃ e', s' = .element e' ∧ e.Bound e'
  | .mustache c, s' => ∃ c', s' = .mustache c' ∧ c.Bound c'
  | .block b, s' => ∃ b', s' = .block b' ∧ b.Bound b'
  | s, s' => s' = s
termination_by structural x => x

def Element.Bound : Element → Element → Prop
  | ⟨tag, attributes, modifiers, children, loc⟩, e' =>
    e'.tag = tag ∧ List.Forall₂ Attribute.Bound attributes e'.attributes ∧
      List.Forall₂ Call.Bound modifiers e'.modifiers ∧ bodyBound children e'.children ∧ e'.loc = loc
termination_by structural x => x

def BlockStatement.Bound : BlockStatement → BlockStatement → Prop
  | ⟨call, program, inverse⟩, b' =>
    call.Bound b'.call ∧ program.Bound b'.program ∧ inverseBound inverse b'.inverse
termination_by structural x => x

def inverseBound : Option Block → Option Block → Prop
  | none, b' => b' = none
  | some b, b' => ∃ other, b' = some other ∧ b.Bound other
termination_by structural x => x

def Block.Bound : Block → Block → Prop
  | ⟨body, loc⟩, b' => bodyBound body b'.body ∧ b'.loc = loc
termination_by structural x => x

def bodyBound : List Statement → List Statement → Prop
  | [], ss' => ss' = []
  | s :: ss, ss' => ∃ s' rest, ss' = s' :: rest ∧ s.Bound s' ∧ bodyBound ss rest
termination_by structural x => x

end

/-- The second template is the first one with its plain arguments bound. -/
def Template.Bound (t t' : Template) : Prop := bodyBound t.body t'.body ∧ t'.loc = t.loc

theorem Call.Bound.params {c c' : Call} (h : c.Bound c') : paramsBound c.params c'.params := by
  cases c
  exact h.2.1

theorem Call.Bound.pairs {c c' : Call} (h : c.Bound c') : pairsBound c.hash.pairs c'.hash.pairs := by
  obtain ⟨callee, params, ⟨pairs, hashLoc⟩, loc⟩ := c
  exact h.2.2.1.1

theorem Expression.nameText?_bound {e e' : Expression} (h : e.Bound e') :
    e'.nameText? = e.nameText? := by
  cases e with
  | sub c =>
    obtain ⟨c', rfl, -⟩ := h
    rfl
  | path | string | literal | unknown => rw [show e' = _ from h]

theorem Expression.isSub_bound {e e' : Expression} (h : e.Bound e') : e'.isSub = e.isSub := by
  cases e with
  | sub c =>
    obtain ⟨c', rfl, -⟩ := h
    rfl
  | path | string | literal | unknown => rw [show e' = _ from h]

theorem Pair.isSub_bound {p p' : Pair} (h : p.Bound p') : p'.value.isSub = p.value.isSub := by
  obtain ⟨key, value, loc⟩ := p
  obtain ⟨-, -, ⟨⟨s, l, rfl⟩, name, l', hpath⟩ | ⟨-, hbound⟩⟩ := h
  · -- neither a string nor a path is a sub-expression
    rw [hpath]
    rfl
  · exact Expression.isSub_bound hbound

theorem map_isSub_paramsBound {es es' : List Expression} (h : paramsBound es es') :
    es'.map Expression.isSub = es.map Expression.isSub := by
  induction es generalizing es' with
  | nil =>
    rw [show es' = [] from h]
  | cons e es ih =>
    obtain ⟨e', rest, rfl, he, hrest⟩ := h
    rw [List.map_cons, List.map_cons, Expression.isSub_bound he, ih hrest]

theorem map_isSub_pairsBound {ps ps' : List Pair} (h : pairsBound ps ps') :
    ps'.map (fun p => p.value.isSub) = ps.map fun p => p.value.isSub := by
  induction ps generalizing ps' with
  | nil =>
    rw [show ps' = [] from h]
  | cons p ps ih =>
    obtain ⟨p', rest, rfl, hp, hrest⟩ := h
    rw [List.map_cons, List.map_cons, Pair.isSub_bound hp, ih hrest]

namespace Header

/-! ### What the rule sees of it -/

/-- The argument with a value that is not written as a plain text. -/
def Argument.bound (a : Argument) : Argument := { a with kind := .other }

/-- The invocation with all its arguments bound. -/
def Invocation.bound (v : Invocation) : Invocation :=
  { v with arguments := v.arguments.map Argument.bound }

theorem ofPair_bound {p p' : Pair} (h : p.Bound p') : Argument.ofPair p' = (Argument.ofPair p).bound := by
  obtain ⟨key, value, loc⟩ := p
  obtain ⟨key', value', loc'⟩ := p'
  obtain ⟨rfl, rfl, ⟨-, name, l, hvalue⟩ | ⟨hvalue, hbound⟩⟩ := h
  · simp only at hvalue
    subst hvalue
    rfl
  · -- a value that is no string stays one
    have hother : ∀ s l, value' ≠ .string s l := by
      cases value with
      | sub c =>
        obtain ⟨c', rfl, -⟩ := hbound
        nofun
      | string s l => exact absurd rfl (hvalue s l)
      | path | literal | unknown => rw [show value' = _ from hbound]; nofun
    cases value' with
    | string s l => exact absurd rfl (hother s l)
    | path | sub | literal | unknown => rfl

theorem ofAttribute_bound {a a' : Attribute} (h : a.Bound a') :
    Argument.ofAttribute a' = (Argument.ofAttribute a).bound := by
  obtain ⟨name, value, loc⟩ := a
  obtain ⟨name', value', loc'⟩ := a'
  obtain ⟨rfl, rfl, -, htext⟩ := h
  by_cases hat : '@' ∈ name'.toList
  · cases value' with
    | text s l => exact absurd rfl (htext s l)
    | mustache | concat | unknown => simp [Argument.ofAttribute, Argument.bound, hat]
  · simp [Argument.ofAttribute, Argument.bound, hat]

theorem ofPairs_bound {ps ps' : List Pair} (h : pairsBound ps ps') :
    ps'.map Argument.ofPair = (ps.map Argument.ofPair).map Argument.bound := by
  induction ps generalizing ps' with
  | nil =>
    rw [show ps' = [] from h]
    rfl
  | cons p ps ih =>
    obtain ⟨p', rest, rfl, hp, hrest⟩ := h
    rw [List.map_cons, List.map_cons, List.map_cons, ofPair_bound hp, ih hrest]

theorem ofCall?_bound {c c' : Call} (h : c.Bound c') :
    Invocation.ofCall? c' = (Invocation.ofCall? c).map Invocation.bound := by
  obtain ⟨callee, params, ⟨pairs, hashLoc⟩, loc⟩ := c
  obtain ⟨hcallee, -, ⟨hpairs, -⟩, hloc⟩ := h
  rw [Invocation.ofCall?, Invocation.ofCall?, Expression.nameText?_bound hcallee, ofPairs_bound hpairs, hloc]
  cases callee.nameText? <;> rfl

theorem ofParams_bound {es es' : List Expression} (h : paramsBound es es') (v : Invocation) :
    v.bound.ofParams es' = (v.ofParams es).map Invocation.bound := by
  induction es generalizing es' with
  | nil =>
    rw [show es' = [] from h]
    rfl
  | cons e es ih =>
    obtain ⟨e', rest, rfl, he, hrest⟩ := h
    have ih := ih hrest
    rw [Invocation.ofParams, Invocation.ofParams] at ih ⊢
    rw [List.filterMap_cons, List.filterMap_cons, Expression.nameText?_bound he]
    cases e.nameText? with
    | none => exact ih
    | some name => exact congrArg (_ :: ·) ih

theorem ofAttributes_bound {as as' : List Attribute} (h : List.Forall₂ Attribute.Bound as as') :
    as'.map Argument.ofAttribute = (as.map Argument.ofAttribute).map Argument.bound := by
  induction h with
  | nil => rfl
  | cons ha _ ih => rw [List.map_cons, List.map_cons, List.map_cons, ofAttribute_bound ha, ih]

theorem ofElement_bound {e e' : Element} (h : e.Bound e') :
    Invocation.ofElement e' = (Invocation.ofElement e).bound := by
  obtain ⟨tag, attributes, modifiers, children, loc⟩ := e
  obtain ⟨htag, hattributes, -, -, hloc⟩ := h
  rw [Invocation.ofElement, Invocation.ofElement, htag, hloc, ofAttributes_bound hattributes]
  rfl

/-! ### What is found at a stop -/

/-- The finding is about arguments that are missing. -/
def isMissing (f : Finding) : Bool := f.message.startsWith "Component \""

section Findings

variable (source : Source)

theorem checkInvocation_bound (v : Invocation) :
    checkInvocation source v.bound = (checkInvocation source v).filter isMissing := by
  have hactions : checkActions source v.bound = [] := by
    rw [checkActions]
    split
    · simp [Invocation.bound, Argument.bound, Argument.isLiteral, ValueKind.isLiteral]
    · rfl
  -- only the names of arguments count here
  have hrequirements : checkRequirements source v.bound = checkRequirements source v := by
    have hany : ∀ needed : List String, (v.bound.arguments.any fun a => a.isNamed needed.contains) =
        v.arguments.any fun a => a.isNamed needed.contains := by
      intro needed
      rw [Invocation.bound, List.any_map]
      rfl
    rw [checkRequirements, checkRequirements]
    simp only [hany]
    rfl
  rw [checkInvocation, hactions, hrequirements, List.nil_append]
  exact (filter_checkInvocation_requirements source v).symm

theorem check_bound {o o' : Occurrence} (h : invocations o' = (invocations o).map Invocation.bound) :
    check source o' = (check source o).filter isMissing := by
  rw [check, check, h, List.flatMap_map, List.filter_flatMap]
  exact List.flatMap_congr fun v _ => checkInvocation_bound source v

end Findings

/-- The second node hands on the arguments of the first, bound. -/
def HandsOnBound (r r' : NodeRef) : Prop :=
  ∀ here n n', (inherited ⟨⟨here, n'⟩, some r'⟩).map Argument.ofPair =
    ((inherited ⟨⟨here, n⟩, some r⟩).map Argument.ofPair).map Argument.bound

theorem handsOnBound_of_call (n n' : Node) {c c' : Call} (hn : n.call? = some c)
    (hn' : n'.call? = some c') (h : c.Bound c') (here : Address) : HandsOnBound ⟨here, n⟩ ⟨here, n'⟩ := by
  intro sub m m'
  simp only [inherited, hn, hn', Option.elim_some, List.map_map]
  apply map_bequest_congr (map_isSub_paramsBound h.params) (map_isSub_pairsBound h.pairs)
  rw [ofPairs_bound h.pairs, List.map_map]

theorem invocations_mustache_bound {c c' : Call} (h : c.Bound c') (here : Address)
    (outer outer' : Option NodeRef) :
    invocations ⟨⟨here, .mustache c'⟩, outer'⟩ =
      (invocations ⟨⟨here, .mustache c⟩, outer⟩).map Invocation.bound := by
  simp only [invocations, ofCall?_bound h]
  cases Invocation.ofCall? c with
  | none => rfl
  | some v =>
    show v.bound :: (if v.isComponentHelper then v.bound.ofParams c'.params else []) = _
    rw [List.map_cons, apply_ite (List.map Invocation.bound), ofParams_bound h.params]
    rfl

theorem invocations_sub_bound {c c' : Call} (h : c.Bound c') {r r' : NodeRef} (hr : HandsOnBound r r')
    (here : Address) :
    invocations ⟨⟨here, .sub c'⟩, some r'⟩ =
      (invocations ⟨⟨here, .sub c⟩, some r⟩).map Invocation.bound := by
  simp only [invocations, ofCall?_bound h, hr here (.sub c) (.sub c')]
  cases Invocation.ofCall? c with
  | none => rfl
  | some v =>
    generalize (inherited ⟨⟨here, .sub c⟩, some r⟩).map Argument.ofPair = more
    have hinherit : v.bound.inherit (more.map Argument.bound) = (v.inherit more).bound := by
      simp [Invocation.inherit, Invocation.bound]
    show (if v.isComponentHelper then (v.bound.inherit (more.map Argument.bound)).ofParams c'.params
      else []) = _
    rw [apply_ite (List.map Invocation.bound), hinherit, ofParams_bound h.params]
    rfl

/-! ### What is found in a tree -/

section Tree

variable (source : Source)

mutual

theorem expressionFindings_bound {r r' : NodeRef} (hr : HandsOnBound r r') (here : Address) :
    ∀ e e' : Expression, e.Bound e' →
      (e'.occurrences r' here).flatMap (check source) =
        ((e.occurrences r here).flatMap (check source)).filter isMissing
  | .sub c, _, ⟨c', rfl, h⟩ => by
    rw [Expression.occurrences, Expression.occurrences, List.flatMap_cons, List.flatMap_cons,
      List.filter_append, check_bound source (invocations_sub_bound h hr here),
      callFindings_bound (handsOnBound_of_call (.sub c) (.sub c') rfl rfl h here) here c c' h]
  | .path .., _, rfl => rfl
  | .string .., _, rfl => rfl
  | .literal .., _, rfl => rfl
  | .unknown, _, rfl => rfl
termination_by structural x => x

theorem callFindings_bound {r r' : NodeRef} (hr : HandsOnBound r r') (here : Address) :
    ∀ c c' : Call, c.Bound c' →
      (c'.occurrences r' here).flatMap (check source) =
        ((c.occurrences r here).flatMap (check source)).filter isMissing
  | ⟨callee, params, ⟨pairs, _⟩, _⟩, ⟨callee', params', ⟨pairs', _⟩, _⟩, ⟨hcallee, hparams, ⟨hpairs, _⟩, _⟩ => by
    simp only [Call.occurrences, Hash.occurrences, List.flatMap_append, List.filter_append]
    rw [expressionFindings_bound hr _ callee callee' hcallee,
      paramFindings_bound hr here 0 params params' hparams, pairFindings_bound hr here 0 pairs pairs' hpairs]
termination_by structural x => x

theorem paramFindings_bound {r r' : NodeRef} (hr : HandsOnBound r r') (here : Address) (index : Nat) :
    ∀ es es' : List Expression, paramsBound es es' →
      (paramOccurrences r' here index es').flatMap (check source) =
        ((paramOccurrences r here index es).flatMap (check source)).filter isMissing
  | [], _, rfl => rfl
  | e :: es, _, ⟨e', rest, rfl, he, hrest⟩ => by
    simp only [paramOccurrences, List.flatMap_append, List.filter_append]
    rw [expressionFindings_bound hr _ e e' he, paramFindings_bound hr here (index + 1) es rest hrest]
termination_by structural x => x

theorem pairFindings_bound {r r' : NodeRef} (hr : HandsOnBound r r') (here : Address) (index : Nat) :
    ∀ ps ps' : List Pair, pairsBound ps ps' →
      (pairOccurrences r' here index ps').flatMap (check source) =
        ((pairOccurrences r here index ps).flatMap (check source)).filter isMissing
  | [], _, rfl => rfl
  | ⟨key, value, _⟩ :: ps, _, ⟨⟨key', value', _⟩, rest, rfl, ⟨_, _, hvalue⟩, hrest⟩ => by
    have hpair : ∀ here, (value'.occurrences r' here).flatMap (check source) =
        ((value.occurrences r here).flatMap (check source)).filter isMissing := by
      intro here
      rcases hvalue with ⟨⟨s, l, rfl⟩, name, l', hpath⟩ | ⟨-, hbound⟩
      · -- neither a string nor a path is a stop
        rw [show value' = .path name l' from hpath]
        rfl
      · exact expressionFindings_bound hr here value value' hbound
    simp only [pairOccurrences, Pair.occurrences, List.flatMap_append, List.filter_append]
    rw [hpair, pairFindings_bound hr here (index + 1) ps rest hrest]
termination_by structural x => x

end

theorem mustacheFindings_bound {c c' : Call} (h : c.Bound c') (here : Address)
    (outer outer' : Option NodeRef) :
    (mustacheOccurrences outer' here c').flatMap (check source) =
      ((mustacheOccurrences outer here c).flatMap (check source)).filter isMissing := by
  have hr := handsOnBound_of_call (.mustache c) (.mustache c') rfl rfl h here
  rw [mustacheOccurrences, mustacheOccurrences, List.flatMap_cons, List.flatMap_cons, List.filter_append,
    check_bound source (invocations_mustache_bound h here outer outer'),
    callFindings_bound source hr here c c' h]

/-- Nothing is wrong with a mustache that has taken the place of a text. -/
theorem findings_of_isBoundText {v : AttributeValue} (h : v.IsBoundText) (r : NodeRef) (here : Address) :
    (v.occurrences r here).flatMap (check source) = [] := by
  obtain ⟨name, nameLoc, hashLoc, loc, rfl, hmain, hop⟩ := h
  have hnone : checkInvocation source ⟨name, .call, [], loc⟩ = [] := by
    apply checkInvocation_eq_nil
    · simpa [Invocation.isMain] using hmain
    · exact hop
  -- even the helper has no parameters here
  simp [AttributeValue.occurrences, mustacheOccurrences, Call.occurrences, Expression.occurrences,
    paramOccurrences, Hash.occurrences, pairOccurrences, check, invocations, Invocation.ofCall?,
    Expression.nameText?, Invocation.ofParams, hnone]

mutual

theorem valueFindings_bound (r : NodeRef) (here : Address) : ∀ v v' : AttributeValue, v.Bound v' →
    (v'.occurrences r here).flatMap (check source) =
      ((v.occurrences r here).flatMap (check source)).filter isMissing
  | .mustache c, _, ⟨c', rfl, h⟩ => mustacheFindings_bound source h here (some r) (some r)
  | .concat parts _, _, ⟨parts', rfl, h⟩ => by
    rw [AttributeValue.occurrences, AttributeValue.occurrences]
    exact partFindings_bound r here 0 parts parts' h
  | .text .., _, .inl rfl => rfl
  | .text .., _, .inr h => findings_of_isBoundText source h r here
  | .unknown, _, rfl => rfl
termination_by structural x => x

theorem partFindings_bound (r : NodeRef) (here : Address) (index : Nat) :
    ∀ vs vs' : List AttributeValue, partsBound vs vs' →
      (partOccurrences r here index vs').flatMap (check source) =
        ((partOccurrences r here index vs).flatMap (check source)).filter isMissing
  | [], _, rfl => rfl
  | v :: vs, _, ⟨v', rest, rfl, hv, hrest⟩ => by
    simp only [partOccurrences, List.flatMap_append, List.filter_append]
    rw [valueFindings_bound r _ v v' hv, partFindings_bound r here (index + 1) vs rest hrest]
termination_by structural x => x

end

theorem argumentFindings_bound {c c' : Call} (h : c.Bound c') :
    argumentFindings source c' = (argumentFindings source c).filter isMissing :=
  callFindings_bound source (handsOnBound_of_call (.mustache c) (.mustache c') rfl rfl h []) [] c c' h

/-- There is nothing to inherit in a modifier, as an element is no call. -/
theorem modifierFindings_bound {c c' : Call} (h : c.Bound c') :
    modifierFindings source c' = (modifierFindings source c).filter isMissing := by
  have hr : HandsOnBound anyElement anyElement := fun _ _ _ => rfl
  exact callFindings_bound source hr [] c c' h

theorem flatMap_forall₂ {α : Type} {R : α → α → Prop} {as as' : List α} {f f' : α → List Finding}
    (h : List.Forall₂ R as as') (hf : ∀ a a', R a a' → f' a' = (f a).filter isMissing) :
    as'.flatMap f' = (as.flatMap f).filter isMissing := by
  apply h.flatMap_rel (S := fun l l' => l' = l.filter isMissing) rfl ?_ hf
  rintro l _ m _ rfl rfl
  rw [List.filter_append]

theorem elementFindings_bound {e e' : Element} (h : e.Bound e')
    (hchildren : bodyFindings source e'.children = (bodyFindings source e.children).filter isMissing) :
    bodyFindings source [.element e'] = (bodyFindings source [.element e]).filter isMissing := by
  have hown : checkInvocation source (.ofElement e') =
      (checkInvocation source (.ofElement e)).filter isMissing := by
    rw [ofElement_bound h, checkInvocation_bound]
  obtain ⟨tag, attributes, modifiers, children, loc⟩ := e
  obtain ⟨-, hattributes, hmodifiers, -, -⟩ := h
  have hvalue : ∀ a a' : Attribute, a.Bound a' →
      valueFindings source a'.value = (valueFindings source a.value).filter isMissing :=
    fun a a' ha => valueFindings_bound source anyElement [] a.value a'.value ha.2.2.1
  rw [bodyFindings_element, bodyFindings_element, List.filter_append, List.filter_append,
    List.filter_append, hown, hchildren, flatMap_forall₂ hattributes hvalue,
    flatMap_forall₂ hmodifiers fun c c' hc => modifierFindings_bound source hc]

theorem blockFindings_bound {b b' : BlockStatement} (hcall : b.call.Bound b'.call)
    (hprogram : bodyFindings source b'.program.body =
      (bodyFindings source b.program.body).filter isMissing)
    (hinverse : bodyFindings source (b'.inverse.elim [] Block.body) =
      (bodyFindings source (b.inverse.elim [] Block.body)).filter isMissing) :
    bodyFindings source [.block b'] = (bodyFindings source [.block b]).filter isMissing := by
  have hown : (Invocation.ofCall? b'.call).toList.flatMap (checkInvocation source) =
      ((Invocation.ofCall? b.call).toList.flatMap (checkInvocation source)).filter isMissing := by
    rw [ofCall?_bound hcall]
    cases Invocation.ofCall? b.call with
    | none => rfl
    | some v => simp [checkInvocation_bound]
  rw [bodyFindings_block, bodyFindings_block, List.filter_append, List.filter_append, List.filter_append,
    hown, hprogram, hinverse, argumentFindings_bound source hcall]

mutual

theorem statementFindings_bound : ∀ s s' : Statement, s.Bound s' →
    bodyFindings source [s'] = (bodyFindings source [s]).filter isMissing
  | .element ⟨_, _, _, children, _⟩, _, ⟨e', rfl, h⟩ =>
    elementFindings_bound source h (bodyFindings_bound children e'.children h.2.2.2.1)
  | .mustache c, _, ⟨c', rfl, h⟩ => by
    rw [bodyFindings, bodyFindings, List.flatMap_singleton, List.flatMap_singleton]
    exact mustacheFindings_bound source h [] none none
  | .block ⟨_, ⟨program, _⟩, none⟩, _, ⟨b', rfl, hcall, hprogram, hnone⟩ => by
    refine blockFindings_bound source hcall (bodyFindings_bound program _ hprogram.1) ?_
    rw [hnone]
    rfl
  | .block ⟨_, ⟨program, _⟩, some ⟨inverse, _⟩⟩, _, ⟨b', rfl, hcall, hprogram, other, hsome, hother⟩ => by
    refine blockFindings_bound source hcall (bodyFindings_bound program _ hprogram.1) ?_
    rw [hsome]
    exact bodyFindings_bound inverse _ hother.1
  | .text .., _, rfl => rfl
  | .comment .., _, rfl => rfl
  | .unknown, _, rfl => rfl
termination_by structural x => x

theorem bodyFindings_bound : ∀ ss ss' : List Statement, bodyBound ss ss' →
    bodyFindings source ss' = (bodyFindings source ss).filter isMissing
  | [], _, rfl => rfl
  | s :: ss, _, ⟨s', rest, rfl, hs, hrest⟩ => by
    rw [← List.singleton_append, bodyFindings_append, statementFindings_bound s s' hs,
      bodyFindings_bound ss rest hrest, ← List.filter_append, ← bodyFindings_append]
    rfl
termination_by structural x => x

end

end Tree

theorem not_startsWith_of_startsWith {p q s : String} (hs : s.startsWith q)
    (h : ¬ p.toList <+: q.toList ∧ ¬ q.toList <+: p.toList) : s.startsWith p = false := by
  rw [String.startsWith_string_iff] at hs
  rw [String.startsWith_string_eq_false_iff]
  intro hp
  rcases List.prefix_or_prefix_of_prefix hp hs with hpq | hqp
  · exact h.1 hpq
  · exact h.2 hqp

/-- **Following the advice removes the complaints about plain actions, and nothing else.** When the plain
arguments of a template are bound, its diagnostics are those that were not about plain actions before, with
the same contents and in the same order. -/
theorem lintTemplate_bound {e : Engine} {file : String} (h : e.active file = [rule true])
    {t t' : Template} (hbound : t.Bound t') (source : Source) :
    (∀ d ∈ e.lintTemplate t' source file,
      d.message.startsWith "Use of actions as Strings" = false) ∧
    e.lintTemplate t' source file =
      (e.lintTemplate t source file).filter fun d => d.message.startsWith "Component \"" := by
  have heq : e.lintTemplate t' source file =
      (e.lintTemplate t source file).filter fun d => d.message.startsWith "Component \"" := by
    rw [lintTemplate_eq_bodyFindings h, lintTemplate_eq_bodyFindings h,
      bodyFindings_bound source _ _ hbound.1, List.filter_map]
    rfl
  refine ⟨fun d hd => ?_, heq⟩
  rw [heq, List.mem_filter] at hd
  exact not_startsWith_of_startsWith hd.2 (by decide)

/-- A header with two plain actions, one of them inherited, and an operation without what it needs. -/
def plainActions : Template := ⟨headerInCall.body ++
  [.element ⟨"HeaderMain", [⟨"@close", .text "close" {}, {}⟩], [], operationInBlock.body, {}⟩], {}⟩

/-- The same with all its actions bound. -/
def boundActions : Template :=
  let helper : Call := ⟨.path "component" {}, [.string "header-main" {}],
    ⟨[⟨"close", .path "this.close" {}, {}⟩], {}⟩, {}⟩
  ⟨[.mustache ⟨.path "page" {}, [],
      ⟨[⟨"header", .sub helper, {}⟩, ⟨"back", .path "this.back" {}, {}⟩], {}⟩, {}⟩,
    .element ⟨"HeaderMain",
      [⟨"@close", .mustache ⟨.path "this.close" {}, [], ⟨[], {}⟩, {}⟩, {}⟩], [],
      operationInBlock.body, {}⟩], {}⟩

theorem plainActions_bound : plainActions.Bound boundActions := by
  have htext : AttributeValue.IsBoundText (.mustache ⟨.path "this.close" {}, [], ⟨[], {}⟩, {}⟩) :=
    ⟨_, _, _, _, rfl, by decide, by decide⟩
  refine ⟨?_, rfl⟩
  simp [plainActions, boundActions, headerInCall, operationInBlock, bodyBound, Statement.Bound,
    Element.Bound, Attribute.Bound, AttributeValue.Bound, htext, BlockStatement.Bound, Block.Bound,
    inverseBound, Call.Bound, Hash.Bound, pairsBound, Pair.Bound, paramsBound, Expression.Bound]

theorem lintTemplate_bound_boundActions :
    (Engine.mk {} [rule true]).active "page.hbs" = [rule true] ∧
    plainActions.Bound boundActions ∧
    ((∀ d ∈ (Engine.mk {} [rule true]).lintTemplate boundActions .empty "page.hbs",
      d.message.startsWith "Use of actions as Strings" = false) ∧
    (Engine.mk {} [rule true]).lintTemplate boundActions .empty "page.hbs" =
      ((Engine.mk {} [rule true]).lintTemplate plainActions .empty "page.hbs").filter fun d =>
        d.message.startsWith "Component \"") ∧
    ((Engine.mk {} [rule true]).lintTemplate plainActions .empty "page.hbs").length = 4 ∧
    ((Engine.mk {} [rule true]).lintTemplate boundActions .empty "page.hbs").length = 1 :=
  ⟨rfl, plainActions_bound, lintTemplate_bound rfl plainActions_bound .empty, by decide +kernel,
    by decide +kernel⟩

end Header

end TemplateLint
