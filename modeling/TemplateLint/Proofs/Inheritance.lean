import Mathlib.Data.List.InsertIdx
import TemplateLint.Header.Check
import TemplateLint.Proofs.Walk

/-!
# What a sub-expression inherits

A sub-expression that stands as an argument of a call gets the other named arguments of that call. The rule
looks for it among the arguments of the call, and recognises it by its address. So what it inherits is a
matter of **where it stands** and never of what it looks like: equal sub-expressions at different places of
one call inherit different arguments.

* `bequest_append`: from identity to position. The search finds the sub-expression just in the place that
  the way from the call to it names.
* `Inherits` says for every position what is inherited there, by addresses alone.
* `Inherits.isStop` and `exists_inherits`: the positions of `Inherits` are those of the sub-expressions,
  and there the rule takes what `Inherits` says.
* `inherited_by_position`: the sub-expressions that the walk comes to, with the nodes around them and
  what they inherit, are those of `Inherits` in the order of addresses, and equal values of two named
  arguments get each other's argument.
-/

namespace TemplateLint.Header

/-! ### From identity to position -/

/-- What a call hands on along a way that leads from it into its arguments. -/
def handedOn (c : Call) : Address → List Pair
  | [⟨.param, i⟩] => if c.params[i]?.any Expression.isSub then c.hash.pairs else []
  | [⟨.pair, i⟩] =>
    if c.hash.pairs[i]?.any fun p => p.value.isSub then c.hash.pairs.eraseIdx i else []
  | _ => []

theorem isSame_append (here w : Address) (s : Step) (e : Expression) :
    isSame (here ++ w) (here ++ [s]) e = (e.isSub && decide (w = [s])) := by
  simp [isSame, eq_comm]

theorem bequest_append (c : Call) (here w : Address) : bequest c here (here ++ w) = handedOn c w := by
  simp only [bequest, isSame_append]
  match w with
  | [] => simp [handedOn]
  | s :: s' :: w => simp [handedOn]
  | [⟨b, i⟩] =>
    have hindex : ∀ j, ([(⟨b, i⟩ : Step)] = [⟨b, j⟩]) = (j = i) := by
      intro j
      simp [eq_comm]
    cases b with
    | param =>
      have hparam := List.any_zipIdx_index c.params Expression.isSub i
      simp only [hindex, hparam]
      simp [handedOn]
    | pair =>
      have hvalue := List.any_zipIdx_index c.hash.pairs (fun p => p.value.isSub) i
      simp only [hindex, hvalue]
      by_cases hsub : c.hash.pairs[i]?.any (fun p => p.value.isSub) = true
      · rw [List.map_fst_filter_zipIdx_of_any (f := fun p : Pair => p.value.isSub) hsub]
        simp [handedOn, hsub]
      · simp [handedOn, hsub]
    | _ => simp [handedOn]

/-- A sub-expression that is not inside of a call gets nothing from it. -/
theorem bequest_eq_nil (c : Call) {here sub : Address} (h : ¬ here <+: sub) :
    bequest c here sub = [] := by
  have hne : ∀ s e, isSame sub (here ++ [s]) e = false := by
    intro s e
    simp only [isSame, Bool.and_eq_false_iff, decide_eq_false_iff_not]
    exact Or.inr fun heq => h (heq ▸ List.prefix_append here [s])
  simp [bequest, hne]

/-- Of the arguments of a call only matters which of them are sub-expressions, and what is read off the
named ones. -/
theorem map_bequest_congr {α : Type} {f f' : Pair → α} {c c' : Call}
    (hparams : c'.params.map Expression.isSub = c.params.map Expression.isSub)
    (hvalues : c'.hash.pairs.map (fun p => p.value.isSub) = c.hash.pairs.map fun p => p.value.isSub)
    (hpairs : c'.hash.pairs.map f' = c.hash.pairs.map f) (here sub : Address) :
    (bequest c' here sub).map f' = (bequest c here sub).map f := by
  by_cases h : here <+: sub
  · obtain ⟨w, rfl⟩ := h
    rw [bequest_append, bequest_append]
    unfold handedOn
    split
    · rw [List.any_getElem?_congr hparams, apply_ite (List.map f'), apply_ite (List.map f), hpairs]
      rfl
    · rw [List.any_getElem?_congr hvalues, apply_ite (List.map f'), apply_ite (List.map f), ← List.eraseIdx_map,
        ← List.eraseIdx_map, hpairs]
      rfl
    · rfl
  · rw [bequest_eq_nil c' h, bequest_eq_nil c h]
    rfl

/-! ### Positions -/

/-- At the address there is a sub-expression. It stands in a node, and for its position it gets a list of
named arguments. -/
inductive Inherits (t : Template) : Address → Call → Option Node → List Pair → Prop
  /-- A parameter of a call gets all named arguments of the call. -/
  | param {a : Address} {n : Node} {outer c : Call} {i : Nat} :
      t.nodeAt? a = some n → n.call? = some outer → outer.params[i]? = some (.sub c) →
        Inherits t (a ++ [⟨.param, i⟩]) c (some n) outer.hash.pairs
  /-- The value of a named argument gets all of them but the one that it is the value of. -/
  | pair {a : Address} {n : Node} {outer c : Call} {i : Nat} {p : Pair} :
      t.nodeAt? a = some n → n.call? = some outer → outer.hash.pairs[i]? = some p →
        p.value = .sub c →
        Inherits t (a ++ [⟨.pair, i⟩]) c (some n)
          (outer.hash.pairs.take i ++ outer.hash.pairs.drop (i + 1))
  /-- The callee of a call gets nothing. -/
  | callee {a : Address} {n : Node} {outer c : Call} :
      t.nodeAt? a = some n → n.call? = some outer → outer.callee = .sub c →
        Inherits t (a ++ [⟨.callee, 0⟩]) c (some n) []
  /-- Nothing is inherited in the modifier of an element. -/
  | modifier {a : Address} {e : Element} {i : Nat} {m c : Call} {s : Step} :
      t.nodeAt? a = some (.element e) → e.modifiers[i]? = some m → m.Holds s (.sub c) →
        Inherits t (a ++ [⟨.modifier, i⟩] ++ [s]) c (some (.element e)) []

/-! ### The rule takes what the position gives -/

variable {t : Template} {a : Address} {c : Call} {o : Occurrence}

/-- The walk stops at a sub-expression in a call, and hands it over with the call or, if the call is no
node, with the closest node around that. -/
theorem isStop_of_holds {p : Piece} {outer : Call} {s : Step} (hp : t.pieceAt? a = some p)
    (hcall : p.call? = some outer) (hs : outer.Holds s (.sub c)) :
    t.IsStop (a ++ [s]) ⟨⟨a ++ [s], .sub c⟩, (p.ref? a).or (t.parentAt? a)⟩ := by
  refine ⟨rfl, Template.nodeAt?_eq_some_iff.mpr ⟨.expression (.sub c), ?_, rfl⟩, ?_⟩
  · rw [Template.pieceAt?_concat, hp, Option.bind_some, Piece.child?_of_call_holds hcall hs]
  · rw [Template.parentAt?_concat, Template.nodeAt?_of_pieceAt? hp]
    rfl

theorem isStop_of_node {n : Node} {outer : Call} {s : Step} (hn : t.nodeAt? a = some n)
    (hcall : n.call? = some outer) (hs : outer.Holds s (.sub c)) :
    t.IsStop (a ++ [s]) ⟨⟨a ++ [s], .sub c⟩, some ⟨a, n⟩⟩ := by
  obtain ⟨p, hp, hpn⟩ := Template.nodeAt?_eq_some_iff.mp hn
  have hstop := isStop_of_holds hp ((Piece.call?_of_node? hpn).trans hcall) hs
  rwa [Piece.ref?, hpn, Option.map_some, Option.some_or] at hstop

theorem isStop_of_modifier {e : Element} {i : Nat} {m : Call} {s : Step}
    (hn : t.nodeAt? a = some (.element e)) (hm : e.modifiers[i]? = some m)
    (hs : m.Holds s (.sub c)) :
    t.IsStop (a ++ [⟨.modifier, i⟩] ++ [s])
      ⟨⟨a ++ [⟨.modifier, i⟩] ++ [s], .sub c⟩, some ⟨a, .element e⟩⟩ := by
  obtain ⟨p, hp, hpn⟩ := Template.nodeAt?_eq_some_iff.mp hn
  obtain rfl := Piece.eq_of_node?_element hpn
  have hmod : t.pieceAt? (a ++ [⟨.modifier, i⟩]) = some (.modifier m) := by
    rw [Template.pieceAt?_concat, hp]
    simp [Piece.child?, Piece.branch, hm]
  have hstop := isStop_of_holds hmod rfl hs
  rwa [Template.parentAt?_concat, hn, Option.map_some, Option.some_or] at hstop

/-- In a call, the rule gives a sub-expression what the way from the call to it says. -/
theorem inherited_of_call {n : Node} {outer : Call} (hcall : n.call? = some outer) (w : Address) :
    inherited ⟨⟨a ++ w, .sub c⟩, some ⟨a, n⟩⟩ = handedOn outer w := by
  simp only [inherited, hcall, Option.elim_some, bequest_append]

/-- Where `Inherits` says that there is a sub-expression the walk stops, and the sub-expression inherits
what `Inherits` says. -/
theorem Inherits.isStop {parent : Option Node} {pairs : List Pair}
    (h : Inherits t a c parent pairs) :
    ∃ o, t.IsStop a o ∧ o.node = .sub c ∧ o.parent = parent ∧ inherited o = pairs := by
  cases h with
  | param hn hcall hi =>
    refine ⟨_, isStop_of_node hn hcall (.param hi), rfl, rfl, ?_⟩
    rw [inherited_of_call hcall]
    simp [handedOn, hi, Expression.isSub]
  | pair hn hcall hi hp =>
    refine ⟨_, isStop_of_node hn hcall (hp ▸ .pair hi), rfl, rfl, ?_⟩
    rw [inherited_of_call hcall]
    simp [handedOn, hi, hp, Expression.isSub, List.eraseIdx_eq_take_drop_succ]
  | callee hn hcall he =>
    refine ⟨_, isStop_of_node hn hcall (he ▸ .callee), rfl, rfl, ?_⟩
    rw [inherited_of_call hcall]
    rfl
  | modifier hn hm hs => exact ⟨_, isStop_of_modifier hn hm hs, rfl, rfl, rfl⟩

/-- `Inherits` leaves out no sub-expression. -/
theorem exists_inherits (h : t.nodeAt? a = some (.sub c)) :
    ∃ parent pairs, Inherits t a c parent pairs := by
  obtain ⟨q, hq, hqn⟩ := Template.nodeAt?_eq_some_iff.mp h
  obtain rfl := Piece.eq_of_node?_sub hqn
  rcases List.eq_nil_or_concat' a with rfl | ⟨a, s, rfl⟩
  · simp [Template.pieceAt?, Piece.at?] at hq
  rw [Template.pieceAt?_concat] at hq
  obtain ⟨p, hp, hchild⟩ := Option.bind_eq_some_iff.mp hq
  cases Piece.holds_of_child? hchild with
  | argument hcall hs =>
    rcases Piece.call?_eq_some hcall with ⟨n, hpn, hn⟩ | rfl
    · -- the call is a node, and the step says which of its arguments is meant
      have hnode : t.nodeAt? a = some n := Template.nodeAt?_eq_some_iff.mpr ⟨p, hp, hpn⟩
      generalize he : Expression.sub c = e at hs
      cases hs with
      | callee => exact ⟨_, _, .callee hnode hn he.symm⟩
      | param hi => exact ⟨_, _, .param hnode hn (he ▸ hi)⟩
      | pair hi => exact ⟨_, _, .pair hnode hn hi he.symm⟩
    · -- the call is a modifier, so that there is an element one step before it
      rcases List.eq_nil_or_concat' a with rfl | ⟨a, u, rfl⟩
      · simp [Template.pieceAt?, Piece.at?] at hp
      rw [Template.pieceAt?_concat] at hp
      obtain ⟨p', hp', hu⟩ := Option.bind_eq_some_iff.mp hp
      cases Piece.holds_of_child? hu with
      | modifier hm =>
        exact ⟨_, _, .modifier (Template.nodeAt?_eq_some_iff.mpr ⟨_, hp', rfl⟩) hm hs⟩

/-- At a stop of the walk, `Inherits` says what the rule does. -/
theorem inherits_iff (hstop : t.IsStop a o) (hsub : o.node = .sub c) {parent : Option Node}
    {pairs : List Pair} :
    Inherits t a c parent pairs ↔ parent = o.parent ∧ pairs = inherited o := by
  have hunique : ∀ {parent pairs}, Inherits t a c parent pairs →
      parent = o.parent ∧ pairs = inherited o := by
    intro parent pairs h
    obtain ⟨o', hstop', -, rfl, rfl⟩ := h.isStop
    obtain rfl := hstop.unique hstop'
    exact ⟨rfl, rfl⟩
  constructor
  · exact hunique
  · rintro ⟨rfl, rfl⟩
    obtain ⟨parent, pairs, h⟩ := exists_inherits (hstop.2.1.trans (congrArg some hsub))
    obtain ⟨rfl, rfl⟩ := hunique h
    exact h

/-! ### All sub-expressions of a template -/

/-- The sub-expression at a stop, with the node around it and the named arguments that it inherits. -/
def heir? (o : Occurrence) : Option (Call × Option Node × List Pair) :=
  match o.node with
  | .sub c => some (c, o.parent, inherited o)
  | _ => none

/-- The heirs along the walk are those of `Inherits`, in the order of addresses. -/
theorem lists_heirs (t : Template) :
    Lists (fun a x => Inherits t a x.1 x.2.1 x.2.2) (t.occurrences.filterMap heir?) := by
  refine (t.lists_isStop.filterMap heir?).congr ?_
  rintro a ⟨c, parent, pairs⟩
  constructor
  · rintro ⟨o, hstop, ho⟩
    unfold heir? at ho
    split at ho
    · next c hsub =>
      cases ho
      exact (inherits_iff hstop hsub).mpr ⟨rfl, rfl⟩
    · cases ho
  · intro h
    obtain ⟨o, hstop, hsub, rfl, rfl⟩ := h.isStop
    exact ⟨o, hstop, by rw [heir?, hsub]⟩

/-- **What the sub-expressions of a template inherit depends on their positions only.** The walk comes to
all of them in the order of addresses, hands each over with the node around it, and gives it what
`Inherits` says for its address. So the value of a named argument gets every other argument of the call,
also one that has the same value. -/
theorem inherited_by_position (t : Template) :
    Lists (fun a x => Inherits t a x.1 x.2.1 x.2.2) (t.occurrences.filterMap heir?) ∧
      ∀ a n outer c i j p q, t.nodeAt? a = some n → n.call? = some outer →
        outer.hash.pairs[i]? = some p → p.value = .sub c → outer.hash.pairs[j]? = some q → i ≠ j →
        ∃ pairs, Inherits t (a ++ [⟨.pair, i⟩]) c (some n) pairs ∧ q ∈ pairs := by
  refine ⟨lists_heirs t, ?_⟩
  intro a n outer c i j p q hn hcall hp hpc hq hij
  refine ⟨_, .pair hn hcall hp hpc, ?_⟩
  rw [← List.eraseIdx_eq_take_drop_succ, List.mem_eraseIdx_iff_getElem?]
  exact ⟨j, hij.symm, hq⟩

-- two equal values of named arguments: each gets the other argument
example :
    let twin : Expression := .sub (.ofCallee (.path "component" {}))
    let call : Call := ⟨.path "page" {}, [], ⟨[⟨"left", twin, {}⟩, ⟨"right", twin, {}⟩], {}⟩, {}⟩
    ((Template.mk [.mustache call] {}).occurrences.filterMap heir?).map
      (fun (_, _, pairs) => pairs.map Pair.key) = [["right"], ["left"]] := by
  rfl

end TemplateLint.Header
