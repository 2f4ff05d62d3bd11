import TemplateLint.Template.Walk
import TemplateLint.Proofs.Listing

/-!
# Positions in a template

A template is cut into `Piece`s: statements, attribute values and parts of them, modifiers and
expressions. The pieces that a piece directly holds lie in its branches, a `Step` leads to one of them,
and an `Address` leads from the template to a piece.

Addresses say **where** a piece stands, whatever it looks like: pieces that are equal have different
addresses when they stand at different places. They are compared step by step, so that a piece comes
before everything that it holds, and what it holds comes in the order of its branches. This is the
order in which a template is written down.

Which piece stands at an address is read off the syntax here. How the walk comes to its addresses plays
no part in it.
-/

namespace TemplateLint

/-! ### The order of addresses -/

namespace Branch

/-- The place of a branch among the branches of the same piece. -/
def rank : Branch → Nat
  | body => 0
  | value => 1
  | part => 2
  | modifier => 3
  | child => 4
  | callee => 5
  | param => 6
  | pair => 7
  | program => 8
  | inverse => 9

instance : LT Branch := ⟨fun b c => b.rank < c.rank⟩

instance (b c : Branch) : Decidable (b < c) := inferInstanceAs (Decidable (b.rank < c.rank))

instance : Std.Asymm (α := Branch) (· < ·) := ⟨fun _ _ => Nat.lt_asymm⟩

/-- All branches in their order. -/
def all : List Branch :=
  [body, value, part, modifier, child, callee, param, pair, program, inverse]

theorem lists_all : Lists (fun b c : Branch => c = b) all := by
  refine ⟨all.map fun b => (b, b), ⟨by decide, ?_⟩, by decide⟩
  intro b c
  cases b <;> simp [all, eq_comm]

end Branch

namespace Step

instance : LT Step :=
  ⟨fun s u => s.branch < u.branch ∨ s.branch = u.branch ∧ s.index < u.index⟩

instance (s u : Step) : Decidable (s < u) :=
  inferInstanceAs (Decidable (s.branch < u.branch ∨ s.branch = u.branch ∧ s.index < u.index))

instance : Std.Asymm (α := Step) (· < ·) where
  asymm := by
    rintro ⟨b, i⟩ ⟨c, j⟩ (h | ⟨rfl, h⟩) (h' | ⟨h'', h'⟩)
    · exact Std.Asymm.asymm (r := (· < · : Branch → Branch → Prop)) _ _ h h'
    · subst h''
      exact Std.Asymm.asymm (r := (· < · : Branch → Branch → Prop)) _ _ h h
    · exact Std.Asymm.asymm (r := (· < · : Branch → Branch → Prop)) _ _ h' h'
    · exact Nat.lt_asymm h h'

end Step

/-! ### Pieces -/

/-- A piece of a template that has a position of its own. -/
inductive Piece where
  | template (t : Template)
  | statement (s : Statement)
  | value (v : AttributeValue)
  | modifier (c : Call)
  | expression (e : Expression)

/-- The pieces in a branch of a call. -/
def Call.branch (c : Call) : Branch → List Piece
  | .callee => [.expression c.callee]
  | .param => c.params.map .expression
  | .pair => c.hash.pairs.map fun p => .expression p.value
  | _ => []

namespace Piece

/-- The pieces in a branch of a piece. -/
def branch : Piece → Branch → List Piece
  | template t, .body => t.body.map statement
  | statement (.element e), .value => e.attributes.map fun a => value a.value
  | statement (.element e), .modifier => e.modifiers.map modifier
  | statement (.element e), .child => e.children.map statement
  | statement (.mustache c), b => c.branch b
  | statement (.block s), .program => s.program.body.map statement
  | statement (.block s), .inverse => s.inverse.elim [] fun i => i.body.map statement
  | statement (.block s), b => s.call.branch b
  | value (.mustache c), b => c.branch b
  | value (.concat parts _), .part => parts.map value
  | modifier c, b => c.branch b
  | expression (.sub c), b => c.branch b
  | _, _ => []

/-- The node that a piece is: an element, a mustache, a block statement or a sub-expression. -/
def node? : Piece → Option Node
  | statement (.element e) => some (.element e)
  | statement (.mustache c) => some (.mustache c)
  | statement (.block s) => some (.block s)
  | value (.mustache c) => some (.mustache c)
  | expression (.sub c) => some (.sub c)
  | _ => none

/-- The piece that a step leads to. -/
def child? (p : Piece) (s : Step) : Option Piece := (p.branch s.branch)[s.index]?

/-- The piece at an address, counted from a piece. -/
def at? : Piece → Address → Option Piece
  | p, [] => some p
  | p, s :: a => (p.child? s).bind fun q => q.at? a

/-- The node at an address, counted from a piece. -/
def nodeAt? (p : Piece) (a : Address) : Option Node := (p.at? a).bind node?

/-- The reference to the node that a piece at an address is. -/
def ref? (p : Piece) (here : Address) : Option NodeRef := p.node?.map (NodeRef.mk here)

/-- The closest node around an address: the last one on the way to it. The way is counted from a piece,
which stands at the address `here` itself. -/
def parentAt? (p : Piece) (here a : Address) : Option NodeRef :=
  (List.range a.length).reverse.findSome? fun k =>
    (p.nodeAt? (a.take k)).map (NodeRef.mk (here ++ a.take k))

end Piece

namespace Template

/-- The piece at an address of a template. -/
def pieceAt? (t : Template) (a : Address) : Option Piece := (Piece.template t).at? a

/-- The node at an address of a template. -/
def nodeAt? (t : Template) (a : Address) : Option Node := (Piece.template t).nodeAt? a

/-- The closest node around an address of a template. -/
def parentAt? (t : Template) (a : Address) : Option NodeRef := (Piece.template t).parentAt? [] a

end Template

/-! ### What a piece can hold

The branches are read off once, as a relation with one constructor for each kind of step. Whatever
depends on the kind of a piece is then a case distinction on this relation. -/

/-- The step leads from the call to the expression: its callee, a parameter, or the value of a named
argument. -/
inductive Call.Holds (c : Call) : Step → Expression → Prop
  | callee : Holds c ⟨.callee, 0⟩ c.callee
  | param {i : Nat} {e : Expression} : c.params[i]? = some e → Holds c ⟨.param, i⟩ e
  | pair {i : Nat} {p : Pair} : c.hash.pairs[i]? = some p → Holds c ⟨.pair, i⟩ p.value

theorem Call.holds_of_getElem? {c : Call} {s : Step} {q : Piece}
    (h : (c.branch s.branch)[s.index]? = some q) : ∃ e, q = .expression e ∧ c.Holds s e := by
  obtain ⟨b, i⟩ := s
  dsimp only at h
  unfold Call.branch at h
  split at h
  · obtain ⟨rfl, rfl⟩ : i = 0 ∧ .expression c.callee = q := by
      simpa [List.getElem?_singleton] using h
    exact ⟨c.callee, rfl, .callee⟩
  · obtain ⟨e, he, rfl⟩ := List.exists_of_getElem?_map h
    exact ⟨e, rfl, .param he⟩
  · obtain ⟨p, hp, rfl⟩ := List.exists_of_getElem?_map h
    exact ⟨p.value, rfl, .pair hp⟩
  · simp at h

namespace Piece

/-- The call that a piece is. -/
def call? : Piece → Option Call
  | statement (.mustache c) => some c
  | statement (.block s) => some s.call
  | value (.mustache c) => some c
  | modifier c => some c
  | expression (.sub c) => some c
  | _ => none

/-- The step leads from the first piece to the second. -/
inductive Holds : Piece → Step → Piece → Prop
  | body {t : Template} {i : Nat} {s : Statement} :
      t.body[i]? = some s → Holds (template t) ⟨.body, i⟩ (statement s)
  | value {e : Element} {i : Nat} {a : Attribute} :
      e.attributes[i]? = some a → Holds (statement (.element e)) ⟨.value, i⟩ (value a.value)
  | modifier {e : Element} {i : Nat} {c : Call} :
      e.modifiers[i]? = some c → Holds (statement (.element e)) ⟨.modifier, i⟩ (modifier c)
  | child {e : Element} {i : Nat} {s : Statement} :
      e.children[i]? = some s → Holds (statement (.element e)) ⟨.child, i⟩ (statement s)
  | part {vs : List AttributeValue} {loc : Span} {i : Nat} {v : AttributeValue} :
      vs[i]? = some v → Holds (Piece.value (.concat vs loc)) ⟨.part, i⟩ (Piece.value v)
  | program {b : BlockStatement} {i : Nat} {s : Statement} :
      b.program.body[i]? = some s → Holds (statement (.block b)) ⟨.program, i⟩ (statement s)
  | inverse {b : BlockStatement} {other : Block} {i : Nat} {s : Statement} :
      b.inverse = some other → other.body[i]? = some s →
        Holds (statement (.block b)) ⟨.inverse, i⟩ (statement s)
  | argument {p : Piece} {c : Call} {s : Step} {e : Expression} :
      p.call? = some c → c.Holds s e → Holds p s (expression e)

/-- A step leads only where `Holds` says. -/
theorem holds_of_child? {p q : Piece} {s : Step} (h : p.child? s = some q) : p.Holds s q := by
  obtain ⟨b, i⟩ := s
  -- the pieces that are calls have the branches of the call
  have hcall : ∀ c, p.call? = some c → (c.branch b)[i]? = some q → p.Holds ⟨b, i⟩ q := by
    intro c hc hq
    obtain ⟨e, rfl, he⟩ := Call.holds_of_getElem? (s := ⟨b, i⟩) hq
    exact .argument hc he
  unfold child? branch at h
  dsimp only at h
  split at h
  · obtain ⟨s, hs, rfl⟩ := List.exists_of_getElem?_map h
    exact .body hs
  · obtain ⟨a, ha, rfl⟩ := List.exists_of_getElem?_map h
    exact .value ha
  · obtain ⟨c, hc, rfl⟩ := List.exists_of_getElem?_map h
    exact .modifier hc
  · obtain ⟨s, hs, rfl⟩ := List.exists_of_getElem?_map h
    exact .child hs
  · exact hcall _ rfl h
  · obtain ⟨s, hs, rfl⟩ := List.exists_of_getElem?_map h
    exact .program hs
  · next blk =>
    cases hi : blk.inverse with
    | none => simp [hi] at h
    | some other =>
      rw [hi, Option.elim_some] at h
      obtain ⟨s, hs, rfl⟩ := List.exists_of_getElem?_map h
      exact .inverse hi hs
  · exact hcall _ rfl h
  · exact hcall _ rfl h
  · obtain ⟨v, hv, rfl⟩ := List.exists_of_getElem?_map h
    exact .part hv
  · exact hcall _ rfl h
  · exact hcall _ rfl h
  · simp at h

/-- A piece that is a call holds what the call holds. -/
theorem child?_of_call_holds {p : Piece} {c : Call} {s : Step} {e : Expression}
    (hc : p.call? = some c) (h : c.Holds s e) : p.child? s = some (expression e) := by
  have hbranch : (c.branch s.branch)[s.index]? = some (expression e) := by
    cases h with
    | callee => rfl
    | param he => simp [Call.branch, he]
    | pair hp => simp [Call.branch, hp]
  -- a block statement has its two bodies beside the branches of its call
  have hne : s.branch ≠ .program ∧ s.branch ≠ .inverse := by
    cases h <;> exact ⟨nofun, nofun⟩
  unfold call? at hc
  split at hc <;> cases hc <;> simpa [child?, branch, hne] using hbranch

/-- A call is a node, but for the modifier of an element. -/
theorem call?_eq_some {p : Piece} {c : Call} (h : p.call? = some c) :
    (∃ n, p.node? = some n ∧ n.call? = some c) ∨ p = modifier c := by
  unfold call? at h
  split at h <;> cases h
  · exact Or.inl ⟨_, rfl, rfl⟩
  · exact Or.inl ⟨_, rfl, rfl⟩
  · exact Or.inl ⟨_, rfl, rfl⟩
  · exact Or.inr rfl
  · exact Or.inl ⟨_, rfl, rfl⟩

theorem call?_of_node? {p : Piece} {n : Node} (h : p.node? = some n) : p.call? = n.call? := by
  unfold node? at h
  split at h <;> cases h <;> rfl

theorem eq_of_node?_element {p : Piece} {e : Element} (h : p.node? = some (.element e)) :
    p = statement (.element e) := by
  unfold node? at h
  split at h <;> cases h
  rfl

theorem eq_of_node?_sub {p : Piece} {c : Call} (h : p.node? = some (.sub c)) :
    p = expression (.sub c) := by
  unfold node? at h
  split at h <;> cases h
  rfl

/-! ### Induction over pieces

What a piece holds is smaller than the piece, so a property of all pieces follows from the property
being handed on to a piece from all that it holds. -/

theorem sizeOf_lt_of_getElem? {α : Type} [SizeOf α] {l : List α} {i : Nat} {x : α}
    (h : l[i]? = some x) : sizeOf x < sizeOf l :=
  List.sizeOf_lt_of_mem (List.mem_of_getElem? h)

theorem sizeOf_lt_of_call_holds {c : Call} {s : Step} {e : Expression} (h : c.Holds s e) :
    sizeOf e < sizeOf c := by
  obtain ⟨callee, params, ⟨pairs, hashLoc⟩, loc⟩ := c
  rw [Call.mk.sizeOf_spec, Hash.mk.sizeOf_spec]
  cases h with
  | callee => simp only; omega
  | param he =>
    have hlt := sizeOf_lt_of_getElem? he
    simp only at hlt
    omega
  | @pair _ p hp =>
    have hlt := sizeOf_lt_of_getElem? hp
    obtain ⟨key, value, pairLoc⟩ := p
    simp only [Pair.mk.sizeOf_spec] at hlt ⊢
    omega

theorem sizeOf_le_of_call? {p : Piece} {c : Call} (h : p.call? = some c) :
    1 + sizeOf c ≤ sizeOf p := by
  unfold call? at h
  split at h <;> simp only [Option.some.injEq, reduceCtorEq] at h
  · subst h
    simp
  · next b =>
    obtain ⟨call, program, inverse⟩ := b
    subst h
    simp
    omega
  · subst h
    simp
  · subst h
    simp
  · subst h
    simp

/-- What a piece holds is smaller than the piece. -/
theorem Holds.sizeOf_lt {p q : Piece} {s : Step} (h : p.Holds s q) : sizeOf q < sizeOf p := by
  cases h with
  | @body t _ _ hs =>
    obtain ⟨body, loc⟩ := t
    have hlt := sizeOf_lt_of_getElem? hs
    simp at hlt ⊢
    omega
  | @value e _ a ha =>
    obtain ⟨tag, attributes, modifiers, children, loc⟩ := e
    have hlt := sizeOf_lt_of_getElem? ha
    obtain ⟨name, v, attributeLoc⟩ := a
    simp at hlt ⊢
    omega
  | @modifier e _ _ hc =>
    obtain ⟨tag, attributes, modifiers, children, loc⟩ := e
    have hlt := sizeOf_lt_of_getElem? hc
    simp at hlt ⊢
    omega
  | @child e _ _ hs =>
    obtain ⟨tag, attributes, modifiers, children, loc⟩ := e
    have hlt := sizeOf_lt_of_getElem? hs
    simp at hlt ⊢
    omega
  | part hv =>
    have hlt := sizeOf_lt_of_getElem? hv
    simp
    omega
  | @program b _ _ hs =>
    obtain ⟨call, ⟨body, loc⟩, inverse⟩ := b
    have hlt := sizeOf_lt_of_getElem? hs
    simp at hlt ⊢
    omega
  | @inverse b other _ _ hi hs =>
    obtain ⟨call, program, _⟩ := b
    obtain rfl := hi
    obtain ⟨body, loc⟩ := other
    have hlt := sizeOf_lt_of_getElem? hs
    simp at hlt ⊢
    omega
  | argument hc he =>
    have hcall := sizeOf_le_of_call? hc
    have hlt := sizeOf_lt_of_call_holds he
    simp
    omega

/-- Induction over pieces: a property that a piece has whenever everything that it holds has it is a
property of all pieces. -/
theorem induct {motive : Piece → Prop}
    (step : ∀ p, (∀ s q, p.child? s = some q → motive q) → motive p) (p : Piece) : motive p := by
  induction hn : sizeOf p using Nat.strongRecOn generalizing p with
  | _ n ih =>
    apply step
    intro s q hq
    exact ih (sizeOf q) (hn ▸ (holds_of_child? hq).sizeOf_lt) q rfl

/-! ### What a piece holds, in order -/

/-- The pieces that a piece holds, each with the step to it. -/
def children (p : Piece) : List (Step × Piece) :=
  Branch.all.flatMap fun b => (p.branch b).zipIdx.map fun (q, i) => (⟨b, i⟩, q)

theorem lists_children (p : Piece) :
    Lists (fun s x => x.1 = s ∧ p.child? s = some x.2) p.children := by
  have h := Branch.lists_all.flatMap Step.mk (fun _ _ _ _ hlt => Or.inl hlt)
    (fun _ _ _ hlt => Or.inr ⟨rfl, hlt⟩)
    fun _ b _ => (lists_zipIdx (p.branch b)).map fun (q, i) => ((⟨b, i⟩ : Step), q)
  refine h.congr fun ⟨b, i⟩ ⟨s, q⟩ => ?_
  constructor
  · rintro ⟨_, b, j, rfl, ⟨⟨q, _⟩, ⟨hq, rfl⟩, heq⟩, hs⟩
    cases heq
    cases hs
    exact ⟨rfl, hq⟩
  · rintro ⟨rfl, hq⟩
    exact ⟨b, b, i, rfl, ⟨(q, i), ⟨hq, rfl⟩, rfl⟩, rfl⟩

theorem child?_of_mem_children {p : Piece} {y : Step × Piece} (h : y ∈ p.children) :
    p.child? y.1 = some y.2 := by
  obtain ⟨s, rfl, hchild⟩ := p.lists_children.mem_iff.mp h
  exact hchild

/-! ### Addresses step by step -/

@[simp] theorem nodeAt?_nil (p : Piece) : p.nodeAt? [] = p.node? := rfl

@[simp] theorem nodeAt?_cons (p : Piece) (s : Step) (a : Address) :
    p.nodeAt? (s :: a) = (p.child? s).bind fun q => q.nodeAt? a := by
  simp only [nodeAt?, at?, Option.bind_assoc]

@[simp] theorem parentAt?_nil (p : Piece) (here : Address) : p.parentAt? here [] = none := rfl

/-- The closest node around an address is searched from the inside to the outside. -/
theorem parentAt?_cons (p : Piece) (here : Address) (s : Step) (a : Address) :
    p.parentAt? here (s :: a) =
      ((p.child? s).bind fun q => q.parentAt? (here ++ [s]) a).or (p.ref? here) := by
  -- the search stops at the piece itself only after all that lies on the way behind it
  have hinner : ((List.range a.length).reverse.findSome? fun k =>
      (p.nodeAt? (s :: a.take k)).map (NodeRef.mk (here ++ s :: a.take k))) =
      (p.child? s).bind fun q => q.parentAt? (here ++ [s]) a := by
    cases hq : p.child? s with
    | none => simp [hq]
    | some q => simp [hq, parentAt?]
  rw [← hinner]
  simp only [parentAt?, List.length_cons, List.range_succ_eq_map, List.reverse_cons,
    List.findSome?_append, ← List.map_reverse, List.findSome?_map, List.findSome?_singleton,
    List.take_zero, List.append_nil]
  rfl

/-! ### Addresses from their end -/

theorem at?_append (p : Piece) (a b : Address) :
    p.at? (a ++ b) = (p.at? a).bind fun q => q.at? b := by
  induction a generalizing p with
  | nil => rfl
  | cons s a ih => simp only [List.cons_append, at?, ih, Option.bind_assoc]

@[simp] theorem at?_singleton (p : Piece) (s : Step) : p.at? [s] = p.child? s := by
  simp [at?]

/-- The closest node around an address is the piece one step before it, if that is a node. -/
theorem parentAt?_concat (p : Piece) (here a : Address) (s : Step) :
    p.parentAt? here (a ++ [s]) =
      ((p.nodeAt? a).map (NodeRef.mk (here ++ a))).or (p.parentAt? here a) := by
  induction a generalizing p here with
  | nil => simp [parentAt?_cons, ref?]
  | cons u a ih =>
    rw [List.cons_append, parentAt?_cons, parentAt?_cons, nodeAt?_cons]
    cases p.child? u with
    | none => rfl
    | some q => simp [ih, Option.or_assoc]

end Piece

namespace Template

theorem nodeAt?_eq_some_iff {t : Template} {a : Address} {n : Node} :
    t.nodeAt? a = some n ↔ ∃ p, t.pieceAt? a = some p ∧ p.node? = some n :=
  Option.bind_eq_some_iff

theorem nodeAt?_of_pieceAt? {t : Template} {a : Address} {p : Piece} (h : t.pieceAt? a = some p) :
    t.nodeAt? a = p.node? :=
  congrArg (Option.bind · Piece.node?) h

theorem pieceAt?_concat (t : Template) (a : Address) (s : Step) :
    t.pieceAt? (a ++ [s]) = (t.pieceAt? a).bind fun p => p.child? s := by
  rw [pieceAt?, Piece.at?_append]
  simp only [Piece.at?_singleton]
  rfl

theorem parentAt?_concat (t : Template) (a : Address) (s : Step) :
    t.parentAt? (a ++ [s]) = ((t.nodeAt? a).map (NodeRef.mk a)).or (t.parentAt? a) :=
  Piece.parentAt?_concat ..

end Template

end TemplateLint
