import TemplateLint.Proofs.Independence
import TemplateLint.Proofs.NeutralMarkup

/-!
# The ways to write an invocation

The same component can be invoked by an element, by a mustache, by a block statement, and by the helper
that takes its name, as a mustache or as a sub-expression. `Writes` says when a node writes the invocation
of a name with given arguments, in any of these ways.

To the rule they are all one. It takes the arguments in two forms, which differ in the kind of a plain
value only, and the main header has other names as an element than in a call. Two names are therefore left
out: `HeaderMain` and `header-main`, each of which is the main header in one form and nothing in the other.

* `check_of_writes`: what is found at a node that writes an invocation, in terms of the invocation alone.
* `check_component`: the helper with several names is the helper with each of them, one after the other.
* `spellings_alike`: both, for the diagnostics.
-/

namespace TemplateLint.Header

/-! ### Arguments and the nodes that have them -/

/-- An argument that is given to a component, apart from the way in which it is written. -/
structure Given where
  key : String
  /-- The value is a plain text. -/
  plain : Bool
  loc : Span
  deriving DecidableEq, Repr

namespace Given

/-- The pair of a call is this argument. -/
def IsPair (g : Given) (p : Pair) : Prop :=
  p.key = g.key ∧ p.loc = g.loc ∧ ((∃ s l, p.value = .string s l) ↔ g.plain)

/-- The attribute of an element is this argument. The sign of an argument stands before its name, whatever
signs the name itself has. -/
def IsAttribute (g : Given) (a : Attribute) : Prop :=
  a.name = "@" ++ g.key ∧ a.loc = g.loc ∧ ((∃ s l, a.value = .text s l) ↔ g.plain)

/-- What the rule makes of the argument, where plain values are of the kind `literal`. -/
def argument (literal : ValueKind) (g : Given) : Argument :=
  ⟨some g.key, if g.plain then literal else .other, g.loc⟩

end Given

/-- The node writes the invocation of a name with arguments at a place. -/
inductive Writes (name : String) (args : List Given) (loc : Span) : Node → Prop
  | element {e : Element} : e.tag = name → List.Forall₂ Given.IsAttribute args e.attributes →
      e.loc = loc → Writes name args loc (.element e)
  -- parameters make no difference, unless they are names that the helper takes
  | mustache {c : Call} : c.callee.nameText? = some name → (name = "component" → c.params = []) →
      List.Forall₂ Given.IsPair args c.hash.pairs → c.loc = loc → Writes name args loc (.mustache c)
  | block {b : BlockStatement} : b.call.callee.nameText? = some name →
      List.Forall₂ Given.IsPair args b.call.hash.pairs → b.call.loc = loc →
      Writes name args loc (.block b)
  | componentMustache {c : Call} {p : Expression} : c.callee.nameText? = some "component" →
      c.params = [p] → p.nameText? = some name → List.Forall₂ Given.IsPair args c.hash.pairs →
      c.loc = loc → Writes name args loc (.mustache c)
  | componentSub {c : Call} {p : Expression} : c.callee.nameText? = some "component" →
      c.params = [p] → p.nameText? = some name → List.Forall₂ Given.IsPair args c.hash.pairs →
      c.loc = loc → Writes name args loc (.sub c)

/-! ### What the rule sees of them -/

theorem Given.IsPair.ofPair {g : Given} {p : Pair} (h : g.IsPair p) :
    Argument.ofPair p = g.argument .string := by
  obtain ⟨key, value, loc⟩ := p
  obtain ⟨rfl, rfl, hplain⟩ := h
  cases value with
  | string s l =>
    have hg : g.plain = true := hplain.mp ⟨s, l, rfl⟩
    simp [Argument.ofPair, argument, hg]
  | path | sub | literal | unknown =>
    have hg : g.plain = false := by simpa using hplain
    simp [Argument.ofPair, argument, hg]

theorem Given.IsAttribute.ofAttribute {g : Given} {a : Attribute} (h : g.IsAttribute a) :
    Argument.ofAttribute a = g.argument .text := by
  obtain ⟨name, value, loc⟩ := a
  obtain ⟨rfl, rfl, hplain⟩ := h
  -- the first sign is the one in front, so the rest is the key
  have herase : Text.eraseFirst '@' ("@" ++ g.key) = g.key := by
    simp [Text.eraseFirst]
  cases value with
  | text s l =>
    have hg : g.plain = true := hplain.mp ⟨s, l, rfl⟩
    simp [Argument.ofAttribute, argument, herase, hg]
  | mustache | concat | unknown =>
    have hg : g.plain = false := by simpa using hplain
    simp [Argument.ofAttribute, argument, herase, hg]

theorem map_ofPair {args : List Given} {ps : List Pair} (h : List.Forall₂ Given.IsPair args ps) :
    ps.map Argument.ofPair = args.map (Given.argument .string) := by
  induction h with
  | nil => rfl
  | cons hp _ ih => rw [List.map_cons, List.map_cons, hp.ofPair, ih]

theorem map_ofAttribute {args : List Given} {as : List Attribute}
    (h : List.Forall₂ Given.IsAttribute args as) :
    as.map Argument.ofAttribute = args.map (Given.argument .text) := by
  induction h with
  | nil => rfl
  | cons ha _ ih => rw [List.map_cons, List.map_cons, ha.ofAttribute, ih]

theorem isNamed_argument (literal : ValueKind) (g : Given) (p : String → Bool) :
    (g.argument literal).isNamed p = p g.key := by
  simp [Given.argument, Argument.isNamed]

theorem isLiteral_argument {literal : ValueKind} (h : literal.isLiteral) (g : Given) :
    (g.argument literal).isLiteral = g.plain := by
  rw [Given.argument, Argument.isLiteral]
  cases g.plain with
  | false => rfl
  | true => exact h

/-! ### What the rule finds -/

section Findings

variable (source : Source)

/-- Which arguments are complained about does not depend on the kind of plain values. -/
theorem plainActions_given {literal : ValueKind} (h : literal.isLiteral) (args : List Given) :
    ((args.map (Given.argument literal)).filter fun a => a.isNamed isAction && a.isLiteral).map
        (plainAction source) =
      (args.filter fun g => isAction g.key && g.plain).map fun g =>
        plainAction source (g.argument .other) := by
  rw [List.filter_map, List.map_map]
  simp only [Function.comp_def, isNamed_argument, isLiteral_argument h]
  rfl

theorem any_isNamed_given (literal : ValueKind) (args : List Given) (p : String → Bool) :
    ((args.map (Given.argument literal)).any fun a => a.isNamed p) = args.any fun g => p g.key := by
  rw [List.any_map]
  simp only [Function.comp_def, isNamed_argument]

/-- An element and a call are checked alike, but for the two names of the main header that only one of
them has. -/
theorem checkInvocation_element {name : String} (htag : name ≠ "HeaderMain")
    (hpath : name ≠ "header-main") (args : List Given) (loc : Span) :
    checkInvocation source ⟨name, .element, args.map (Given.argument .text), loc⟩ =
      checkInvocation source ⟨name, .call, args.map (Given.argument .string), loc⟩ := by
  have hmain : ∀ as bs, Invocation.isMain ⟨name, .element, as, loc⟩ =
      Invocation.isMain ⟨name, .call, bs, loc⟩ := by
    intro as bs
    simp [Invocation.isMain, mainTags, mainPaths, htag, hpath]
  have hactions : checkActions source ⟨name, .element, args.map (Given.argument .text), loc⟩ =
      checkActions source ⟨name, .call, args.map (Given.argument .string), loc⟩ := by
    simp only [checkActions, hmain _ (args.map (Given.argument .string))]
    rw [plainActions_given source rfl, plainActions_given source rfl]
  have hrequirements :
      checkRequirements source ⟨name, .element, args.map (Given.argument .text), loc⟩ =
        checkRequirements source ⟨name, .call, args.map (Given.argument .string), loc⟩ := by
    simp only [checkRequirements, any_isNamed_given]
    rfl
  rw [checkInvocation, checkInvocation, hactions, hrequirements]

/-- The helper that takes names is not a header component itself. -/
theorem checkInvocation_component (args : List Argument) (loc : Span) :
    checkInvocation source ⟨"component", .call, args, loc⟩ = [] := by
  have hname : "component" ∉ familyNames := by decide
  exact checkInvocation_eq_nil source rfl hname

theorem ofCall?_eq {c : Call} {name : String} (h : c.callee.nameText? = some name) :
    Invocation.ofCall? c = some ⟨name, .call, c.hash.pairs.map .ofPair, c.loc⟩ := by
  rw [Invocation.ofCall?, h]
  rfl

theorem flatMap_ofParams (v : Invocation) (params : List Expression) :
    (v.ofParams params).flatMap (checkInvocation source) =
      params.flatMap fun p => p.nameText?.toList.flatMap fun name =>
        checkInvocation source (v.rename name) := by
  induction params with
  | nil => rfl
  | cons p params ih =>
    rw [Invocation.ofParams] at ih ⊢
    rw [List.filterMap_cons, List.flatMap_cons]
    cases p.nameText? with
    | none => exact ih
    | some name =>
      rw [Option.map_some, List.flatMap_cons, ih, Option.toList_some, List.flatMap_singleton]

/-- The helper as a mustache is checked for each of its parameters that has a text. -/
theorem check_component {c : Call} (hc : c.callee.nameText? = some "component") (here : Address)
    (outer : Option NodeRef) :
    check source ⟨⟨here, .mustache c⟩, outer⟩ =
      c.params.flatMap fun p => p.nameText?.toList.flatMap fun name =>
        checkInvocation source ⟨name, .call, c.hash.pairs.map .ofPair, c.loc⟩ := by
  simp only [check, invocations, ofCall?_eq hc]
  rw [if_pos (isComponentHelper_iff.mpr rfl), List.flatMap_cons, checkInvocation_component,
    List.nil_append, flatMap_ofParams]
  rfl

theorem check_mustache {c : Call} {name : String} (hc : c.callee.nameText? = some name)
    (hname : name ≠ "component") (here : Address) (outer : Option NodeRef) :
    check source ⟨⟨here, .mustache c⟩, outer⟩ =
      checkInvocation source ⟨name, .call, c.hash.pairs.map .ofPair, c.loc⟩ := by
  simp only [check, invocations, ofCall?_eq hc]
  rw [if_neg (mt isComponentHelper_iff.mp hname), List.flatMap_singleton]

/-- What is found at a node that writes an invocation. -/
theorem check_of_writes {o : Occurrence} {name : String} {args : List Given} {loc : Span}
    (htag : name ≠ "HeaderMain") (hpath : name ≠ "header-main") (ho : o.parent = none)
    (h : Writes name args loc o.node) :
    check source o =
      checkInvocation source ⟨name, .call, args.map (Given.argument .string), loc⟩ := by
  obtain ⟨⟨here, node⟩, outer⟩ := o
  obtain rfl : outer = none := Option.map_eq_none_iff.mp ho
  simp only at h
  cases h with
  | @element e htext hargs hloc =>
    simp only [check, invocations]
    rw [List.flatMap_singleton, Invocation.ofElement, htext, map_ofAttribute hargs, hloc]
    exact checkInvocation_element source htag hpath args loc
  | @mustache c hc hparams hargs hloc =>
    by_cases hname : name = "component"
    · subst hname
      rw [check_component source hc, hparams rfl, checkInvocation_component]
      rfl
    · rw [check_mustache source hc hname, map_ofPair hargs, hloc]
  | @block b hc hargs hloc =>
    simp only [check, invocations, ofCall?_eq hc]
    rw [Option.toList_some, List.flatMap_singleton, map_ofPair hargs, hloc]
  | @componentMustache c p hc hparams hp hargs hloc =>
    rw [check_component source hc, hparams, List.flatMap_singleton, hp, Option.toList_some,
      List.flatMap_singleton, map_ofPair hargs, hloc]
  | @componentSub c p hc hparams hp hargs hloc =>
    simp only [check, invocations, ofCall?_eq hc]
    rw [if_pos (isComponentHelper_iff.mpr rfl), flatMap_ofParams, hparams, List.flatMap_singleton, hp,
      Option.toList_some, List.flatMap_singleton, map_ofPair hargs, hloc]
    -- without a node around it nothing is inherited
    simp only [Invocation.rename, Invocation.inherit, inherited, List.map_nil, List.append_nil]

end Findings

/-- The diagnostics that the engine makes of what the rule finds at one stop of the walk. -/
def logged (e : Engine) (file : String) (source : Source) (o : Occurrence) : List Diagnostic :=
  ((rule true).check source o).map
    (e.diagnose file (Engine.help (e.active file) (rule true)) (rule true))

theorem check_rule (enabled : Bool) : (rule enabled).check = check := rfl

/-- **It does not matter how an invocation is written.** Nodes that write the invocation of one name with
the same arguments at the same place, and have no node around them, have the same diagnostics. The two
names that are left out belong to the main header in one form only. The helper as a mustache has the
diagnostics that it has with each of its parameters alone, in their order; those without a text add
nothing. -/
theorem spellings_alike (e : Engine) (file : String) (source : Source) :
    (∀ name args loc (o o' : Occurrence), name ≠ "HeaderMain" → name ≠ "header-main" →
      o.parent = none → o'.parent = none → Writes name args loc o.node → Writes name args loc o'.node →
      logged e file source o = logged e file source o') ∧
    ∀ (c : Call) (here : Address), c.callee.nameText? = some "component" →
      logged e file source ⟨⟨here, .mustache c⟩, none⟩ =
        (c.params.filter (·.nameText?.isSome)).flatMap fun p =>
          logged e file source ⟨⟨here, .mustache { c with params := [p] }⟩, none⟩ := by
  constructor
  · intro name args loc o o' htag hpath ho ho' hw hw'
    rw [logged, logged, check_rule, check_of_writes source htag hpath ho hw,
      check_of_writes source htag hpath ho' hw']
  · intro c here hc
    have hsingle : ∀ p, check source ⟨⟨here, .mustache { c with params := [p] }⟩, none⟩ =
        p.nameText?.toList.flatMap fun name =>
          checkInvocation source ⟨name, .call, c.hash.pairs.map .ofPair, c.loc⟩ := by
      intro p
      rw [check_component source (c := { c with params := [p] }) hc, List.flatMap_singleton]
    simp only [logged, check_rule, hsingle]
    rw [check_component source hc, List.map_flatMap, List.flatMap_filter]
    apply List.flatMap_congr
    intro p _
    cases p.nameText? <;> rfl

/-- Five ways to give the main header an action as a text and one that is bound. -/
def headerSpellings : List Node :=
  let hash : Hash := ⟨[⟨"close", .string "close" {}, {}⟩, ⟨"back", .path "this.back" {}, {}⟩], {}⟩
  let back : Call := .ofCallee (.path "this.back" {})
  [.element ⟨"wrapper.header",
      [⟨"@close", .text "close" {}, {}⟩, ⟨"@back", .mustache back, {}⟩], [], [], {}⟩,
    .mustache ⟨.path "wrapper.header" {}, [], hash, {}⟩,
    .block ⟨⟨.string "wrapper.header" {}, [], hash, {}⟩, default, none⟩,
    .mustache ⟨.path "component" {}, [.string "wrapper.header" {}], hash, {}⟩,
    .sub ⟨.path "component" {}, [.path "wrapper.header" {}], hash, {}⟩]

theorem spellings_alike_headerSpellings :
    (∀ n ∈ headerSpellings, Writes "wrapper.header" [⟨"close", true, {}⟩, ⟨"back", false, {}⟩] {} n) ∧
    (∀ n ∈ headerSpellings, ∀ n' ∈ headerSpellings,
      logged ⟨{}, [rule true]⟩ "page.hbs" .empty ⟨⟨[⟨.body, 0⟩], n⟩, none⟩ =
        logged ⟨{}, [rule true]⟩ "page.hbs" .empty ⟨⟨[⟨.body, 0⟩], n'⟩, none⟩) ∧
    ∀ n ∈ headerSpellings,
      (logged ⟨{}, [rule true]⟩ "page.hbs" .empty ⟨⟨[⟨.body, 0⟩], n⟩, none⟩).length = 1 := by
  have hwrites : ∀ n ∈ headerSpellings,
      Writes "wrapper.header" [⟨"close", true, {}⟩, ⟨"back", false, {}⟩] {} n := by
    have hpairs : List.Forall₂ Given.IsPair [⟨"close", true, {}⟩, ⟨"back", false, {}⟩]
        [⟨"close", .string "close" {}, {}⟩, ⟨"back", .path "this.back" {}, {}⟩] := by
      simp [Given.IsPair]
    have hattributes : List.Forall₂ Given.IsAttribute [⟨"close", true, {}⟩, ⟨"back", false, {}⟩]
        [⟨"@close", .text "close" {}, {}⟩,
          ⟨"@back", .mustache (.ofCallee (.path "this.back" {})), {}⟩] := by
      simp [Given.IsAttribute]
    simp only [headerSpellings, List.forall_mem_cons]
    refine ⟨.element rfl hattributes rfl, .mustache rfl (fun _ => rfl) hpairs rfl,
      .block rfl hpairs rfl, .componentMustache rfl rfl rfl hpairs rfl,
      .componentSub rfl rfl rfl hpairs rfl, by simp⟩
  refine ⟨hwrites, ?_, by decide +kernel⟩
  intro n hn n' hn'
  exact (spellings_alike _ _ _).1 _ _ _ _ _ (by decide) (by decide) rfl rfl (hwrites n hn)
    (hwrites n' hn')

end TemplateLint.Header
