import TemplateLint.Proofs.Inheritance

/-!
# The invocations in a template

Which components does a template invoke, by which name and with which arguments? `Resolves` answers
this for every position, in terms of the syntax alone: arguments are taken as they are written
(`RawArgument`), and an invocation is found by the address of a node and the `Way` in which the node
invokes. A node invokes directly, by its tag or its callee, or it is the helper that takes components'
names, which invokes each of its parameters that has a text.

* `RawArgument.isNamed_iff`, `RawArgument.isLiteral_iff`: what the rule reads off an argument.
* `lists_resolves`: the invocations that the rule looks at are those of `Resolves`, in the order of
  addresses and, at one address, of the ways.
-/

namespace TemplateLint.Header

/-! ### Arguments as they are written -/

/-- An argument as it is written, in a call or at an element. -/
inductive RawArgument where
  | pair (p : Pair)
  | attr (a : Attribute)

namespace RawArgument

/-- The place of an argument. -/
def loc : RawArgument → Span
  | pair p => p.loc
  | attr a => a.loc

/-- The argument has the name. In a call this is the key. At an element it is what the name of the
attribute is without its first sign `@`, and an attribute without this sign has no name. -/
def HasName : RawArgument → String → Prop
  | pair p, name => p.key = name
  | attr a, name => ∃ before after, '@' ∉ before ∧ a.name.toList = before ++ '@' :: after ∧
      name.toList = before ++ after

/-- The value is written down as it is: a string in a call, a text at an element. -/
def IsPlain : RawArgument → Prop
  | pair p => ∃ s loc, p.value = .string s loc
  | attr a => ∃ s loc, a.value = .text s loc

/-- What the rule makes of an argument. -/
def argument : RawArgument → Argument
  | pair p => .ofPair p
  | attr a => .ofAttribute a

theorem loc_argument (x : RawArgument) : x.argument.loc = x.loc := by
  cases x with
  | pair p => rfl
  | attr a =>
    simp only [argument, Argument.ofAttribute, loc]
    split <;> rfl

/-- The rule takes an argument by its name. -/
theorem name_argument_iff {x : RawArgument} {name : String} :
    x.argument.name = some name ↔ x.HasName name := by
  cases x with
  | pair p => exact Option.some.injEq p.key name ▸ Iff.rfl
  | attr a =>
    -- erasing the first sign is splitting the name there, so there is one way to split
    by_cases hat : '@' ∈ a.name.toList
    · have hname : (attr a).argument.name = some (Text.eraseFirst '@' a.name) := by
        simp [argument, Argument.ofAttribute, hat]
      rw [hname, Option.some.injEq, Text.eraseFirst, ← String.toList_inj, String.toList_ofList]
      constructor
      · intro h
        obtain ⟨before, after, hbefore, hsplit, herase⟩ := List.exists_erase_eq hat
        exact ⟨before, after, hbefore, hsplit, h.symm.trans herase⟩
      · rintro ⟨before, after, hbefore, hsplit, h⟩
        rw [hsplit, List.erase_append_right _ hbefore, List.erase_cons_head, h]
    · have hname : (attr a).argument.name = none := by
        simp [argument, Argument.ofAttribute, hat]
      rw [hname]
      constructor
      · nofun
      · rintro ⟨before, after, -, hsplit, -⟩
        exact absurd (by simp [hsplit]) hat

theorem isNamed_iff {x : RawArgument} {p : String → Bool} :
    x.argument.isNamed p ↔ ∃ name, x.HasName name ∧ p name := by
  rw [Argument.isNamed, Option.any_eq_true]
  simp only [name_argument_iff]

/-- The rule takes an argument with a name for a plain text when it is written as one. -/
theorem isLiteral_iff {x : RawArgument} {name : String} (h : x.HasName name) :
    x.argument.isLiteral ↔ x.IsPlain := by
  cases x with
  | pair p =>
    obtain ⟨key, value, loc⟩ := p
    cases value <;> simp [argument, Argument.ofPair, Argument.isLiteral, ValueKind.isLiteral, IsPlain]
  | attr a =>
    obtain ⟨before, after, -, hsplit, -⟩ := h
    have hat : '@' ∈ a.name.toList := by simp [hsplit]
    obtain ⟨aname, value, loc⟩ := a
    cases value <;>
      simp [argument, Argument.ofAttribute, hat, Argument.isLiteral, ValueKind.isLiteral, IsPlain]

end RawArgument

/-! ### Invocations as they are written -/

/-- A name that is invoked, with the arguments as they are written. -/
structure RawInvocation where
  name : String
  form : Form
  arguments : List RawArgument
  loc : Span

/-- What the rule makes of an invocation. -/
def RawInvocation.invocation (r : RawInvocation) : Invocation :=
  ⟨r.name, r.form, r.arguments.map RawArgument.argument, r.loc⟩

/-- How a node invokes a component. -/
inductive Way where
  /-- By its tag or its callee. -/
  | direct
  /-- As the helper that takes names, by one of its parameters. -/
  | param (index : Nat)
  deriving DecidableEq, Repr

namespace Way

/-- The place of a way among the ways in which one node invokes. -/
def rank : Way → Nat
  | direct => 0
  | param i => i + 1

instance : LT Way := ⟨fun w v => w.rank < v.rank⟩

instance (w v : Way) : Decidable (w < v) := inferInstanceAs (Decidable (w.rank < v.rank))

end Way

/-- A node at an address invokes a component. -/
inductive Invokes (t : Template) (a : Address) : Node → Way → RawInvocation → Prop
  /-- An element invokes its tag with its attributes. -/
  | element {e : Element} :
      Invokes t a (.element e) .direct ⟨e.tag, .element, e.attributes.map .attr, e.loc⟩
  /-- A block statement invokes its callee with its named arguments. -/
  | block {b : BlockStatement} {name : String} : b.call.callee.nameText? = some name →
      Invokes t a (.block b) .direct ⟨name, .call, b.call.hash.pairs.map .pair, b.call.loc⟩
  /-- So does a mustache. -/
  | mustache {c : Call} {name : String} : c.callee.nameText? = some name →
      Invokes t a (.mustache c) .direct ⟨name, .call, c.hash.pairs.map .pair, c.loc⟩
  /-- If the callee is the helper `component`, the mustache also invokes each parameter that has a
  text. -/
  | mustacheParam {c : Call} {i : Nat} {e : Expression} {name : String} :
      c.callee.nameText? = some "component" → c.params[i]? = some e → e.nameText? = some name →
      Invokes t a (.mustache c) (.param i) ⟨name, .call, c.hash.pairs.map .pair, c.loc⟩
  /-- A sub-expression invokes only in this way, and adds what it inherits. -/
  | subParam {c : Call} {i : Nat} {e : Expression} {name : String} {parent : Option Node}
      {more : List Pair} :
      c.callee.nameText? = some "component" → c.params[i]? = some e → e.nameText? = some name →
      Inherits t a c parent more →
      Invokes t a (.sub c) (.param i) ⟨name, .call, (c.hash.pairs ++ more).map .pair, c.loc⟩

/-- Where an invocation is found. -/
structure Site where
  address : Address
  way : Way
  deriving DecidableEq, Repr

instance : LT Site :=
  ⟨fun k k' => k.address < k'.address ∨ k.address = k'.address ∧ k.way < k'.way⟩

/-- The node at a site invokes a component. -/
def Resolves (t : Template) (k : Site) (r : RawInvocation) : Prop :=
  ∃ n, t.nodeAt? k.address = some n ∧ Invokes t k.address n k.way r

/-! ### The invocations that the rule looks at -/

theorem ofElement_eq (e : Element) : Invocation.ofElement e =
    RawInvocation.invocation ⟨e.tag, .element, e.attributes.map .attr, e.loc⟩ := by
  simp [Invocation.ofElement, RawInvocation.invocation, RawArgument.argument]

/-- What the rule makes of a call that is taken under a name. -/
theorem invocation_call (name : String) (pairs : List Pair) (loc : Span) :
    RawInvocation.invocation ⟨name, .call, pairs.map .pair, loc⟩ =
      ⟨name, .call, pairs.map .ofPair, loc⟩ := by
  simp [RawInvocation.invocation, RawArgument.argument]

theorem isComponentHelper_iff {v : Invocation} : v.isComponentHelper ↔ v.name = "component" :=
  decide_eq_true_iff

/-- The helper invokes its parameters that have a text, in their order. -/
theorem lists_ofParams (v : Invocation) (params : List Expression) :
    Lists (fun w u => v.name = "component" ∧ ∃ i e name, w = Way.param i ∧ params[i]? = some e ∧
        e.nameText? = some name ∧ u = v.rename name)
      (if v.isComponentHelper then v.ofParams params else []) := by
  by_cases hv : v.name = "component"
  · rw [if_pos (isComponentHelper_iff.mpr hv)]
    have h := (lists_getElem params).filterMap fun e => e.nameText?.map fun name => v.rename name
    refine (h.mapKeys Way.param fun i j hij => Nat.succ_lt_succ hij).congr fun w u => ?_
    constructor
    · rintro ⟨i, ⟨e, he, hu⟩, rfl⟩
      obtain ⟨name, hname, rfl⟩ := Option.map_eq_some_iff.mp hu
      exact ⟨hv, i, e, name, rfl, he, hname, rfl⟩
    · rintro ⟨-, i, e, name, rfl, he, hname, rfl⟩
      exact ⟨i, ⟨e, he, by rw [hname]; rfl⟩, rfl⟩
  · rw [if_neg (mt isComponentHelper_iff.mp hv)]
    exact Lists.nil fun _ _ h => hv h.1

section Stop

variable {t : Template} {a : Address}

/-- A call whose callee has no text invokes nothing. -/
theorem not_invokes_of_callee {n : Node} {c : Call} {w : Way} {r : RawInvocation}
    (hn : n.call? = some c) (hc : c.callee.nameText? = none) : ¬ Invokes t a n w r := by
  intro h
  cases h with
  | element => cases hn
  | block hname | mustache hname | mustacheParam hname | subParam hname =>
    cases hn
    cases hc.symm.trans hname

theorem lists_element (e : Element) :
    Lists (fun w v => ∃ r, Invokes t a (.element e) w r ∧ v = r.invocation)
      [Invocation.ofElement e] := by
  refine (Lists.singleton Way.direct _).congr fun w v => ?_
  constructor
  · rintro ⟨rfl, rfl⟩
    exact ⟨_, .element, ofElement_eq e⟩
  · rintro ⟨r, ⟨⟩, rfl⟩
    exact ⟨rfl, (ofElement_eq e).symm⟩

theorem lists_block (b : BlockStatement) :
    Lists (fun w v => ∃ r, Invokes t a (.block b) w r ∧ v = r.invocation)
      (Invocation.ofCall? b.call).toList := by
  cases hb : b.call.callee.nameText? with
  | none =>
    rw [Invocation.ofCall?, hb]
    exact Lists.nil fun _ _ ⟨_, h, _⟩ => not_invokes_of_callee rfl hb h
  | some name =>
    rw [Invocation.ofCall?, hb]
    refine (Lists.singleton Way.direct _).congr fun w v => ?_
    constructor
    · rintro ⟨rfl, rfl⟩
      exact ⟨_, .block hb, (invocation_call ..).symm⟩
    · rintro ⟨r, h, rfl⟩
      cases h with
      | block hname =>
        obtain rfl := Option.some.inj (hb.symm.trans hname)
        exact ⟨rfl, invocation_call ..⟩

theorem lists_mustache (c : Call) :
    Lists (fun w v => ∃ r, Invokes t a (.mustache c) w r ∧ v = r.invocation)
      (match Invocation.ofCall? c with
        | none => []
        | some v => v :: if v.isComponentHelper then v.ofParams c.params else []) := by
  cases hc : c.callee.nameText? with
  | none =>
    simp only [Invocation.ofCall?, hc, Option.map_none]
    exact Lists.nil fun _ _ ⟨_, h, _⟩ => not_invokes_of_callee rfl hc h
  | some name =>
    simp only [Invocation.ofCall?, hc, Option.map_some]
    -- the callee comes first, the parameters only when the callee is the helper
    refine ((Lists.singleton Way.direct _).append (lists_ofParams _ c.params) ?_).congr ?_
    · rintro _ _ _ _ ⟨rfl, -⟩ ⟨-, i, -, -, rfl, -⟩
      exact Nat.succ_pos i
    · intro w v
      constructor
      · rintro (⟨rfl, rfl⟩ | ⟨hname, i, e, text, rfl, he, htext, rfl⟩)
        · exact ⟨_, .mustache hc, (invocation_call ..).symm⟩
        · exact ⟨_, .mustacheParam (hc.trans (congrArg some hname)) he htext,
            (invocation_call ..).symm⟩
      · rintro ⟨r, h, rfl⟩
        cases h with
        | mustache hname =>
          obtain rfl := Option.some.inj (hc.symm.trans hname)
          exact Or.inl ⟨rfl, invocation_call ..⟩
        | mustacheParam hname he htext =>
          exact Or.inr ⟨Option.some.inj (hc.symm.trans hname), _, _, _, rfl, he, htext,
            invocation_call ..⟩

theorem lists_sub {o : Occurrence} {c : Call} (hstop : t.IsStop a o) (hsub : o.node = .sub c) :
    Lists (fun w v => ∃ r, Invokes t a (.sub c) w r ∧ v = r.invocation)
      (match Invocation.ofCall? c with
        | none => []
        | some v =>
          if v.isComponentHelper then (v.inherit ((inherited o).map .ofPair)).ofParams c.params
          else []) := by
  cases hc : c.callee.nameText? with
  | none =>
    simp only [Invocation.ofCall?, hc, Option.map_none]
    exact Lists.nil fun _ _ ⟨_, h, _⟩ => not_invokes_of_callee rfl hc h
  | some name =>
    simp only [Invocation.ofCall?, hc, Option.map_some]
    refine (lists_ofParams (Invocation.inherit ((inherited o).map .ofPair)
      ⟨name, .call, c.hash.pairs.map .ofPair, c.loc⟩) c.params).congr fun w v => ?_
    -- what is inherited goes behind the call's own arguments, under whatever name the call is taken
    have hcall : ∀ text : String,
        RawInvocation.invocation ⟨text, .call, (c.hash.pairs ++ inherited o).map .pair, c.loc⟩ =
          (Invocation.inherit ((inherited o).map .ofPair)
            ⟨name, .call, c.hash.pairs.map .ofPair, c.loc⟩).rename text := by
      intro text
      rw [invocation_call, List.map_append]
      rfl
    constructor
    · rintro ⟨hname, i, e, text, rfl, he, htext, rfl⟩
      exact ⟨_, .subParam (hc.trans (congrArg some hname)) he htext
        ((inherits_iff hstop hsub).mpr ⟨rfl, rfl⟩), (hcall text).symm⟩
    · rintro ⟨r, h, rfl⟩
      cases h with
      | subParam hname he htext hmore =>
        obtain ⟨rfl, rfl⟩ := (inherits_iff hstop hsub).mp hmore
        exact ⟨Option.some.inj (hc.symm.trans hname), _, _, _, rfl, he, htext, hcall _⟩

/-- At a stop of the walk, the rule looks at what the node there invokes. -/
theorem lists_invocations {o : Occurrence} (hstop : t.IsStop a o) :
    Lists (fun w v => ∃ r, Invokes t a o.node w r ∧ v = r.invocation) (invocations o) := by
  unfold invocations
  cases ho : o.node with
  | element e => exact lists_element e
  | mustache c => exact lists_mustache c
  | block b => exact lists_block b
  | sub c => exact lists_sub hstop ho

end Stop

/-- **The rule looks at the invocations of a template in the order of their sites.** -/
theorem lists_resolves (t : Template) :
    Lists (fun k v => ∃ r, Resolves t k r ∧ v = r.invocation)
      (t.occurrences.flatMap invocations) := by
  have h := t.lists_isStop.flatMap (f := invocations) Site.mk (fun _ _ _ _ h => Or.inl h)
    (fun _ _ _ h => Or.inr ⟨rfl, h⟩) fun _ _ hstop => lists_invocations hstop
  refine h.congr ?_
  rintro ⟨a, w⟩ v
  constructor
  · rintro ⟨a, o, w, hstop, ⟨r, hr, rfl⟩, heq⟩
    cases heq
    exact ⟨r, ⟨o.node, hstop.2.1, hr⟩, rfl⟩
  · rintro ⟨r, ⟨n, hn, hr⟩, rfl⟩
    exact ⟨a, ⟨⟨a, n⟩, _⟩, w, ⟨rfl, hn, rfl⟩, ⟨r, hr, rfl⟩, rfl⟩

end TemplateLint.Header
