import TemplateLint.Proofs.Positions

/-!
# The walk goes through all positions in order

The walk is defined by one function for each class of pieces. Here it is brought to one form and
compared with the positions of a template.

* **One equation** (`Piece.occurrences_eq`): the walk through a piece is the stop at the piece, if it is
  a node, followed by the walk through what it holds. Each class of pieces is one case.
* **Every position once** (`Piece.lists_stops`): by induction over pieces, the stops of the walk are the
  nodes at the addresses of the piece in the order of addresses, each with its address and with the
  closest node around it.
* **The whole template** (`Template.occurrences_preorder`): the same for the template, together with
  the statements that have no node around them.
-/

namespace TemplateLint

/-! ### The walk through lists -/

section Lists

variable (here : Address) (k : Nat)

theorem paramOccurrences_eq (r : NodeRef) (es : List Expression) :
    paramOccurrences r here k es =
      (es.zipIdx k).flatMap fun (e, i) => e.occurrences r (here ++ [⟨.param, i⟩]) := by
  induction es generalizing k with
  | nil => rw [paramOccurrences]; rfl
  | cons e es ih => rw [paramOccurrences, ih, List.zipIdx_cons, List.flatMap_cons]

theorem pairOccurrences_eq (r : NodeRef) (ps : List Pair) :
    pairOccurrences r here k ps =
      (ps.zipIdx k).flatMap fun (p, i) => p.value.occurrences r (here ++ [⟨.pair, i⟩]) := by
  induction ps generalizing k with
  | nil => rw [pairOccurrences]; rfl
  | cons p ps ih =>
    obtain ⟨key, e, loc⟩ := p
    rw [pairOccurrences, ih, List.zipIdx_cons, List.flatMap_cons, Pair.occurrences]

theorem partOccurrences_eq (r : NodeRef) (vs : List AttributeValue) :
    partOccurrences r here k vs =
      (vs.zipIdx k).flatMap fun (v, i) => v.occurrences r (here ++ [⟨.part, i⟩]) := by
  induction vs generalizing k with
  | nil => rw [partOccurrences]; rfl
  | cons v vs ih => rw [partOccurrences, ih, List.zipIdx_cons, List.flatMap_cons]

theorem bodyOccurrences_eq (outer : Option NodeRef) (b : Branch) (ss : List Statement) :
    bodyOccurrences outer here b k ss =
      (ss.zipIdx k).flatMap fun (s, i) => s.occurrences outer (here ++ [⟨b, i⟩]) := by
  induction ss generalizing k with
  | nil => rw [bodyOccurrences]; rfl
  | cons s ss ih => rw [bodyOccurrences, ih, List.zipIdx_cons, List.flatMap_cons]

end Lists

/-! ### The walk through a piece -/

namespace Piece

/-- The stops that the walk makes in a piece at an address, which stands in the node `outer`, where there
is one. -/
def occurrences (outer : Option NodeRef) (here : Address) : Piece → List Occurrence
  | template t => t.occurrences
  | statement s => s.occurrences outer here
  | value v => outer.elim [] fun r => v.occurrences r here
  | modifier c => outer.elim [] fun r => c.occurrences r here
  | expression e => outer.elim [] fun r => e.occurrences r here

section Occurrences

variable (outer : Option NodeRef) (r : NodeRef) (here : Address)

@[simp] theorem occurrences_template (t : Template) :
    (template t).occurrences outer here = t.occurrences := rfl

@[simp] theorem occurrences_statement (s : Statement) :
    (statement s).occurrences outer here = s.occurrences outer here := rfl

@[simp] theorem occurrences_value (v : AttributeValue) :
    (value v).occurrences (some r) here = v.occurrences r here := rfl

@[simp] theorem occurrences_modifier (c : Call) :
    (modifier c).occurrences (some r) here = c.occurrences r here := rfl

@[simp] theorem occurrences_expression (e : Expression) :
    (expression e).occurrences (some r) here = e.occurrences r here := rfl

end Occurrences

/-- Whether a piece can stand at a place: a template is at the empty address and in no node, and all but
templates and statements are in some node. -/
def Fits (outer : Option NodeRef) (here : Address) : Piece → Prop
  | template _ => outer = none ∧ here = []
  | statement _ => True
  | _ => outer.isSome

/-- Whatever a piece holds can stand where the piece puts it. -/
theorem Holds.fits {p q : Piece} {s : Step} {outer : Option NodeRef} {here : Address}
    (h : p.Holds s q) (hp : p.Fits outer here) : q.Fits ((p.ref? here).or outer) (here ++ [s]) := by
  cases h with
  | body | child | program | inverse => exact trivial
  | value | modifier => rfl
  | part => exact hp
  | argument hc =>
    -- a call is a node itself, but for a modifier, which stands in one
    match p, hp with
    | statement (.mustache _), _ => rfl
    | statement (.block _), _ => rfl
    | .value (.mustache _), _ => rfl
    | .modifier _, hp => exact hp
    | expression (.sub _), _ => rfl

theorem flatMap_children {γ : Type} (p : Piece) (f : Step × Piece → List γ) :
    p.children.flatMap f =
      Branch.all.flatMap fun b => (p.branch b).zipIdx.flatMap fun (q, i) => f (⟨b, i⟩, q) := by
  simp only [children, List.flatMap_assoc, List.flatMap_map]

theorem occurrences_call_branch (r : NodeRef) (here : Address) (c : Call) :
    (Branch.all.flatMap fun b => (c.branch b).zipIdx.flatMap fun (q, i) =>
      q.occurrences (some r) (here ++ [⟨b, i⟩])) = c.occurrences r here := by
  obtain ⟨callee, params, ⟨pairs, hashLoc⟩, loc⟩ := c
  rw [Call.occurrences, paramOccurrences_eq, Hash.occurrences, pairOccurrences_eq]
  simp [Branch.all, Call.branch, List.zipIdx_map, List.flatMap_map]

/-- The walk stops at a piece that is a node, and then goes through what the piece holds. -/
theorem occurrences_eq {p : Piece} {outer : Option NodeRef} {here : Address} (hp : p.Fits outer here) :
    p.occurrences outer here =
      ((p.ref? here).toList.map fun r => ⟨r, outer⟩) ++
        p.children.flatMap fun (s, q) => q.occurrences ((p.ref? here).or outer) (here ++ [s]) := by
  rw [flatMap_children]
  -- one case for each kind of piece; all calls go back to the lemma on the branches of a call
  match p, hp with
  | template t, hp =>
    obtain ⟨rfl, rfl⟩ : outer = none ∧ here = [] := hp
    simp [Branch.all, branch, List.zipIdx_map, List.flatMap_map, ref?, node?,
      Template.occurrences, bodyOccurrences_eq]
  | statement (.element ⟨tag, attributes, modifiers, children, loc⟩), _ =>
    simp [Branch.all, branch, List.zipIdx_map, List.flatMap_map, ref?, node?,
      Statement.occurrences, Element.occurrences, bodyOccurrences_eq]
  | statement (.mustache c), _ =>
    exact congrArg (_ :: ·) (occurrences_call_branch ⟨here, .mustache c⟩ here c).symm
  | statement (.block ⟨call, ⟨program, programLoc⟩, inverse⟩), _ =>
    rw [occurrences_statement, Statement.occurrences, BlockStatement.occurrences, ← occurrences_call_branch]
    cases inverse with
    | none =>
      simp [Branch.all, branch, Call.branch, List.zipIdx_map, List.flatMap_map, ref?, node?,
        Block.occurrences, inverseOccurrences, bodyOccurrences_eq]
    | some inverse =>
      obtain ⟨inverse, inverseLoc⟩ := inverse
      simp [Branch.all, branch, Call.branch, List.zipIdx_map, List.flatMap_map, ref?, node?,
        Block.occurrences, inverseOccurrences, bodyOccurrences_eq]
  | statement (.text ..), _ => rfl
  | statement (.comment ..), _ => rfl
  | statement .unknown, _ => rfl
  | value (.mustache c), hp =>
    obtain ⟨r, rfl⟩ := Option.isSome_iff_exists.mp hp
    exact congrArg (_ :: ·) (occurrences_call_branch ⟨here, .mustache c⟩ here c).symm
  | value (.concat parts loc), hp =>
    obtain ⟨r, rfl⟩ := Option.isSome_iff_exists.mp hp
    simp [Branch.all, branch, List.zipIdx_map, List.flatMap_map, ref?, node?,
      AttributeValue.occurrences, partOccurrences_eq]
  | value (.text ..), _ => cases outer <;> rfl
  | value .unknown, _ => cases outer <;> rfl
  | modifier c, hp =>
    obtain ⟨r, rfl⟩ := Option.isSome_iff_exists.mp hp
    exact (occurrences_call_branch r here c).symm
  | expression (.sub c), hp =>
    obtain ⟨r, rfl⟩ := Option.isSome_iff_exists.mp hp
    exact congrArg (_ :: ·) (occurrences_call_branch ⟨here, .sub c⟩ here c).symm
  | expression (.path ..), _ => cases outer <;> rfl
  | expression (.string ..), _ => cases outer <;> rfl
  | expression (.literal ..), _ => cases outer <;> rfl
  | expression .unknown, _ => cases outer <;> rfl

/-! ### Stops -/

/-- The stop that belongs to an address, counted from a piece at the address `here` in the node `outer`: a
reference to the node there, and one to the closest node around it. -/
def IsStop (p : Piece) (outer : Option NodeRef) (here a : Address) (o : Occurrence) : Prop :=
  o.address = here ++ a ∧ p.nodeAt? a = some o.node ∧ o.outer = (p.parentAt? here a).or outer

theorem isStop_nil {p : Piece} {outer : Option NodeRef} {here : Address} {o : Occurrence} :
    p.IsStop outer here [] o ↔ p.ref? here = some o.toNodeRef ∧ o.outer = outer := by
  obtain ⟨⟨address, node⟩, around⟩ := o
  simp only [IsStop, List.append_nil, nodeAt?_nil, parentAt?_nil, Option.none_or, ref?,
    Option.map_eq_some_iff, NodeRef.mk.injEq]
  grind

theorem isStop_cons {p : Piece} {outer : Option NodeRef} {here : Address} {s : Step} {a : Address}
    {o : Occurrence} :
    p.IsStop outer here (s :: a) o ↔
      ∃ q, p.child? s = some q ∧ q.IsStop ((p.ref? here).or outer) (here ++ [s]) a o := by
  simp only [IsStop, nodeAt?_cons, parentAt?_cons, Option.or_assoc, List.append_assoc,
    List.singleton_append]
  cases p.child? s with
  | none => simp
  | some q => simp

theorem lists_here (p : Piece) (outer : Option NodeRef) (here : Address) :
    Lists (fun (a : Address) o => a = [] ∧ p.IsStop outer here [] o)
      ((p.ref? here).toList.map fun r => ⟨r, outer⟩) := by
  cases hr : p.ref? here with
  | none =>
    apply Lists.nil
    rintro a o ⟨-, ho⟩
    simp [isStop_nil, hr] at ho
  | some r =>
    refine (Lists.singleton ([] : Address) _).congr fun a o => ?_
    rw [isStop_nil, hr, Option.some.injEq]
    constructor
    · rintro ⟨rfl, rfl⟩
      exact ⟨rfl, rfl, rfl⟩
    · rintro ⟨rfl, rfl, rfl⟩
      exact ⟨rfl, rfl⟩

/-- **The walk through a piece makes the stops of the piece in the order of addresses.** -/
theorem lists_stops (p : Piece) (outer : Option NodeRef) (here : Address) (hp : p.Fits outer here) :
    Lists (p.IsStop outer here) (p.occurrences outer here) := by
  induction p using Piece.induct generalizing outer here with
  | step p ih =>
    rw [occurrences_eq hp]
    have hinner : Lists (fun (a : Address) o => ∃ (s : Step) (x : Step × Piece) (a' : Address),
          (x.1 = s ∧ p.child? s = some x.2) ∧
            x.2.IsStop ((p.ref? here).or outer) (here ++ [x.1]) a' o ∧ a = s :: a')
        (p.children.flatMap fun (s, q) => q.occurrences ((p.ref? here).or outer) (here ++ [s])) := by
      refine (lists_children p).flatMap List.cons (fun _ _ _ _ h => List.Lex.rel h)
        (fun _ _ _ h => List.Lex.cons h) ?_
      rintro s ⟨s, q⟩ ⟨rfl, hq⟩
      exact ih s q hq _ _ ((holds_of_child? hq).fits hp)
    -- the address of the piece itself is empty, and the others start with a step
    refine ((lists_here p outer here).append hinner ?_).congr ?_
    · rintro _ _ _ _ ⟨rfl, -⟩ ⟨s, -, a', -, -, rfl⟩
      exact List.nil_lt_cons s a'
    · intro a o
      cases a with
      | nil => simp
      | cons s a =>
        rw [isStop_cons]
        constructor
        · rintro (⟨h, -⟩ | ⟨s', ⟨_, q⟩, a', ⟨rfl, hq⟩, ho, heq⟩)
          · simp at h
          · cases heq
            exact ⟨q, hq, ho⟩
        · rintro ⟨q, hq, ho⟩
          exact Or.inr ⟨s, (s, q), a, ⟨rfl, hq⟩, ho, rfl⟩

/-- A statement that holds anything is a node. -/
theorem node?_isSome_of_child? {st : Statement} {s : Step} {q : Piece}
    (h : (statement st).child? s = some q) : (statement st).node?.isSome := by
  cases st with
  | element | mustache | block => rfl
  | text | comment | unknown => simp [child?, branch] at h

end Piece

/-! ### The walk through a template -/

namespace Template

/-- The stop that belongs to an address of a template: a reference to the node there, and one to the
closest node around it. -/
def IsStop (t : Template) (a : Address) (o : Occurrence) : Prop :=
  o.address = a ∧ t.nodeAt? a = some o.node ∧ o.outer = t.parentAt? a

theorem IsStop.unique {t : Template} {a : Address} {o o' : Occurrence} (h : t.IsStop a o)
    (h' : t.IsStop a o') : o = o' := by
  obtain ⟨⟨address, node⟩, outer⟩ := o
  obtain ⟨⟨address', node'⟩, outer'⟩ := o'
  obtain rfl : address = address' := h.1.trans h'.1.symm
  obtain rfl : node = node' := Option.some.inj (h.2.1.symm.trans h'.2.1)
  obtain rfl : outer = outer' := h.2.2.trans h'.2.2.symm
  rfl

theorem isStop_iff {t : Template} {a : Address} {o : Occurrence} :
    t.IsStop a o ↔ (Piece.template t).IsStop none [] a o := by
  simp [IsStop, Piece.IsStop, nodeAt?, parentAt?]

theorem lists_isStop (t : Template) : Lists t.IsStop t.occurrences :=
  (Piece.lists_stops (.template t) none [] ⟨rfl, rfl⟩).congr fun _ _ => isStop_iff.symm

/-- What a template directly holds are its statements. -/
theorem child?_eq_some {t : Template} {s : Step} {q : Piece}
    (h : (Piece.template t).child? s = some q) :
    ∃ i st, s = ⟨.body, i⟩ ∧ t.body[i]? = some st ∧ q = .statement st := by
  cases Piece.holds_of_child? h with
  | body hst => exact ⟨_, _, rfl, hst, rfl⟩
  | argument hc => cases hc

/-- Only the statements of the template itself have no node around them. -/
theorem parentAt?_eq_none_iff {t : Template} {a : Address} {n : Node} (h : t.nodeAt? a = some n) :
    t.parentAt? a = none ↔ ∃ i, a = [⟨.body, i⟩] := by
  match a with
  | [] => simp [nodeAt?, Piece.node?] at h
  | s :: a =>
    rw [nodeAt?, Piece.nodeAt?_cons] at h
    obtain ⟨q, hq, hn⟩ := Option.bind_eq_some_iff.mp h
    obtain ⟨i, st, rfl, -, rfl⟩ := child?_eq_some hq
    rw [parentAt?, Piece.parentAt?_cons, hq, Option.bind_some]
    cases a with
    | nil => simp [Piece.ref?, Piece.node?]
    | cons s' a =>
      -- the way goes on behind the statement, so the statement is a node around the address
      obtain ⟨r, hr, -⟩ := Option.bind_eq_some_iff.mp ((Piece.nodeAt?_cons ..).symm.trans hn)
      obtain ⟨m, hm⟩ := Option.isSome_iff_exists.mp (Piece.node?_isSome_of_child? hr)
      simp [Piece.parentAt?_cons, Piece.ref?, hm]

/-- **The walk stops once at every element, mustache, block statement and sub-expression of a
template, in the order of their addresses.** The list of these stops is the only one in this order. A
stop comes with its address and with the closest node around it, and there is none just for the statements
of the template itself. -/
theorem occurrences_preorder (t : Template) :
    (∀ l, Lists t.IsStop l ↔ l = t.occurrences) ∧
      ∀ a o, t.IsStop a o → (o.parent = none ↔ ∃ i, a = [⟨.body, i⟩]) := by
  refine ⟨fun l => ⟨fun hl => hl.unique (lists_isStop t), fun hl => hl ▸ lists_isStop t⟩, ?_⟩
  rintro a o ⟨-, hnode, houter⟩
  rw [Occurrence.parent, Option.map_eq_none_iff, houter]
  exact parentAt?_eq_none_iff hnode

-- neither the concatenation nor the modifier is a stop: what they hold belongs to the element
example :
    let call : Call := .ofCallee (.path "x" {})
    let inner : Call := .ofCallee (.sub call)
    ((Template.mk [.element ⟨"div", [⟨"class", .concat [.mustache call] {}, {}⟩], [inner],
      [.mustache inner], {}⟩] {}).occurrences.map fun o => (o.node.kind, o.parent.map Node.kind)) =
      [("ElementNode", none), ("MustacheStatement", some "ElementNode"),
        ("SubExpression", some "ElementNode"), ("MustacheStatement", some "ElementNode"),
        ("SubExpression", some "MustacheStatement")] := by
  rfl

end Template

end TemplateLint
