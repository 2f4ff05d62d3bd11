import TemplateLint.Proofs.AddedPair
import TemplateLint.Proofs.Findings
import TemplateLint.Proofs.Independence

/-!
# More arguments, other diagnostics

What happens to the diagnostics of the header rule when a call in a template gets one more named argument?
The call itself has the argument then, and so have the sub-expressions that stand as arguments of the
call, where it comes among others that they inherit. Everywhere else the rule sees what it saw before.

* `Outline` is what the rule reads off a node: `invocations_eq` says that the invocations at a stop are
  made from the outlines of the node and of the node around it. `Outline.Richer` compares two outlines.
* `forall₂_invocationsIn` and `forall₂_addPairAt`: the invocations of the two templates go along with each
  other, and the arguments grow by the new one or stay as they are. The first is about a piece that is the
  same in both templates, by induction over pieces, and the second about a piece that holds the changed
  call, by induction on the address.
* `arguments_monotone`: so a new argument can only settle what was missing, and it can only be reported
  itself.
-/

namespace TemplateLint.Header

/-! ### What the rule reads off a node -/

/-- What the rule reads off a node: the names that it invokes, its place, the arguments that it is
written with, those that it hands on to the sub-expression at an address, and whether it takes over any
itself. -/
structure Outline where
  names : List (String × Form)
  loc : Span
  arguments : List Argument
  handsOn : Address → List Argument
  inherits : Bool

/-- The name of a callee, if it has a text. -/
def calleeNames (c : Call) : List (String × Form) := c.callee.nameText?.toList.map (·, .call)

/-- The names that the helper takes, if the call is one of the helper. -/
def paramNames (c : Call) : List (String × Form) :=
  if c.callee.nameText? = some componentHelper then
    (c.params.filterMap Expression.nameText?).map (·, .call)
  else []

/-- The outline of a call at an address that invokes some names. -/
def Outline.ofCall (names : List (String × Form)) (inherits : Bool) (here : Address) (c : Call) :
    Outline where
  names := names
  loc := c.loc
  arguments := c.hash.pairs.map .ofPair
  handsOn sub := (bequest c here sub).map .ofPair
  inherits := inherits

/-- The outline of a node. -/
def outline (r : NodeRef) : Outline :=
  match r.node with
  | .element e => ⟨[(e.tag, .element)], e.loc, e.attributes.map .ofAttribute, fun _ => [], false⟩
  | .block b => .ofCall (calleeNames b.call) false r.address b.call
  | .mustache c => .ofCall (calleeNames c ++ paramNames c) false r.address c
  | .sub c => .ofCall (paramNames c) true r.address c

/-- All arguments of a node at an address. -/
def Outline.given (f : Outline) (outer : Option Outline) (here : Address) : List Argument :=
  f.arguments ++ if f.inherits then outer.elim [] fun g => g.handsOn here else []

theorem map_ofPair_inherited (o : Occurrence) :
    (inherited o).map .ofPair = (o.outer.map outline).elim [] fun g => g.handsOn o.address := by
  obtain ⟨r, outer⟩ := o
  cases outer with
  | none => rfl
  | some outer =>
    obtain ⟨here, n⟩ := outer
    cases n <;> rfl

theorem ofParams_eq (v : Invocation) (params : List Expression) :
    v.ofParams params = ((params.filterMap Expression.nameText?).map (·, Form.call)).map
      fun y => ⟨y.1, y.2, v.arguments, v.loc⟩ := by
  simp [Invocation.ofParams, Invocation.rename, List.map_filterMap, Option.map_map, Function.comp_def]

/-- At one stop every name is invoked with the same arguments. -/
theorem invocations_eq (o : Occurrence) :
    invocations o = (outline o.toNodeRef).names.map fun y =>
      ⟨y.1, y.2, (outline o.toNodeRef).given (o.outer.map outline) o.address,
        (outline o.toNodeRef).loc⟩ := by
  cases ho : o.node with
  | element e => simp [invocations, ho, Invocation.ofElement, outline, Outline.given]
  | block b =>
    cases hc : b.call.callee.nameText? <;>
      simp [invocations, ho, Invocation.ofCall?, outline, Outline.ofCall, Outline.given, calleeNames, hc]
  | mustache c =>
    cases hc : c.callee.nameText? with
    | none =>
      simp [invocations, ho, Invocation.ofCall?, outline, Outline.ofCall, calleeNames, paramNames, hc]
    | some name =>
      by_cases hname : name = componentHelper <;>
        simp [invocations, ho, Invocation.ofCall?, Invocation.isComponentHelper, outline, Outline.ofCall,
          Outline.given, calleeNames, paramNames, hc, hname, ofParams_eq]
  | sub c =>
    have hinherited := map_ofPair_inherited o
    cases hc : c.callee.nameText? with
    | none => simp [invocations, ho, Invocation.ofCall?, outline, Outline.ofCall, paramNames, hc]
    | some name =>
      by_cases hname : name = componentHelper <;>
        simp [invocations, ho, Invocation.ofCall?, Invocation.isComponentHelper, Invocation.inherit, outline,
          Outline.ofCall, Outline.given, paramNames, hc, hname, ofParams_eq, hinherited]

/-! ### What the rule reads off a changed node -/

variable {pair : Pair}

theorem nameText?_addPairAt (pair : Pair) (a : Address) (e : Expression) :
    (e.addPairAt pair a).nameText? = e.nameText? := by
  cases e with
  | sub c => cases a <;> rfl
  | path | string | literal | unknown => cases a <;> rfl

theorem isSub_addPairAt (pair : Pair) (a : Address) (e : Expression) :
    (e.addPairAt pair a).isSub = e.isSub := by
  cases e with
  | sub c => cases a <;> rfl
  | path | string | literal | unknown => cases a <;> rfl

theorem ofPair_addPairAt (pair : Pair) (a : Address) (p : Pair) :
    Argument.ofPair { p with value := p.value.addPairAt pair a } = .ofPair p := by
  obtain ⟨key, value, loc⟩ := p
  cases value with
  | sub c => cases a <;> rfl
  | path | string | literal | unknown => cases a <;> rfl

theorem ofAttribute_addPairAt (pair : Pair) (a : Address) (x : Attribute) :
    Argument.ofAttribute { x with value := x.value.addPairAt pair a } = .ofAttribute x := by
  obtain ⟨name, value, loc⟩ := x
  cases value with
  | concat parts loc => cases a <;> rfl
  | mustache | text | unknown => cases a <;> rfl

section Argument

variable (c : Call) (s : Step) (a : Address)

theorem nameText?_modifyArgument :
    (c.modifyArgument s (Expression.addPairAt pair a)).callee.nameText? = c.callee.nameText? := by
  rw [Call.modifyArgument]
  split
  · exact nameText?_addPairAt pair a c.callee
  · rfl

theorem calleeNames_modifyArgument :
    calleeNames (c.modifyArgument s (Expression.addPairAt pair a)) = calleeNames c := by
  rw [calleeNames, nameText?_modifyArgument, calleeNames]

theorem paramNames_modifyArgument :
    paramNames (c.modifyArgument s (Expression.addPairAt pair a)) = paramNames c := by
  have hmap := s.map_modify_of_eq .param (nameText?_addPairAt pair a) c.params
  have hparams : (c.modifyArgument s (Expression.addPairAt pair a)).params.filterMap Expression.nameText? =
      c.params.filterMap Expression.nameText? := by
    have hfilter := congrArg (List.filterMap id) hmap
    rw [List.filterMap_map, List.filterMap_map] at hfilter
    exact hfilter
  rw [paramNames, nameText?_modifyArgument, hparams, paramNames]

theorem ofCall_modifyArgument (names : List (String × Form)) (inherits : Bool) (here : Address) :
    Outline.ofCall names inherits here (c.modifyArgument s (Expression.addPairAt pair a)) =
      .ofCall names inherits here c := by
  have hpairs : (c.modifyArgument s (Expression.addPairAt pair a)).hash.pairs.map Argument.ofPair =
      c.hash.pairs.map .ofPair := s.map_modify_of_eq .pair (ofPair_addPairAt pair a) c.hash.pairs
  -- what was a sub-expression still is one, so that the same arguments are found
  have hbequest : ∀ sub,
      (bequest (c.modifyArgument s (Expression.addPairAt pair a)) here sub).map Argument.ofPair =
        (bequest c here sub).map Argument.ofPair :=
    map_bequest_congr (s.map_modify_of_eq .param (isSub_addPairAt pair a) c.params)
      (s.map_modify_of_eq .pair (fun p => isSub_addPairAt pair a p.value) c.hash.pairs) hpairs here
  simp only [Outline.ofCall, hpairs, hbequest]
  rfl

end Argument

/-- A change further down does not show in a node. -/
theorem outline_addPairAt_cons (pair : Pair) (p : Piece) (here : Address) (s : Step) (a : Address) :
    ((p.addPairAt pair (s :: a)).ref? here).map outline = (p.ref? here).map outline := by
  have hcall : ∀ c : Call, calleeNames (c.modifyArgument s (Expression.addPairAt pair a)) = calleeNames c ∧
      paramNames (c.modifyArgument s (Expression.addPairAt pair a)) = paramNames c :=
    fun c => ⟨calleeNames_modifyArgument c s a, paramNames_modifyArgument c s a⟩
  cases p with
  | template | modifier => rfl
  | statement st =>
    cases st with
    | mustache c =>
      simp [Piece.addPairAt, Statement.addPairAt, Call.addPairAt, Piece.ref?, Piece.node?, outline, hcall,
        ofCall_modifyArgument]
    | block b =>
      simp [Piece.addPairAt, Statement.addPairAt, Piece.ref?, Piece.node?, outline, hcall,
        ofCall_modifyArgument]
    | element e =>
      have hattributes := s.map_modify_of_eq .value (ofAttribute_addPairAt pair a) e.attributes
      simp [Piece.addPairAt, Statement.addPairAt, Piece.ref?, Piece.node?, outline, hattributes]
    | text | comment | unknown => rfl
  | value v =>
    cases v with
    | mustache c =>
      simp [Piece.addPairAt, AttributeValue.addPairAt, Call.addPairAt, Piece.ref?, Piece.node?, outline,
        hcall, ofCall_modifyArgument]
    | concat | text | unknown => rfl
  | expression e =>
    cases e with
    | sub c =>
      simp [Piece.addPairAt, Expression.addPairAt, Piece.ref?, Piece.node?, outline, hcall,
        ofCall_modifyArgument]
    | path | string | literal | unknown => rfl

/-! ### Lists that grow -/

/-- The second list is the first one with nothing but copies of `x` put in. -/
structure Grows {α : Type} (x : α) (l l' : List α) : Prop where
  sublist : l.Sublist l'
  filter_eq : ∀ p : α → Bool, p x = false → l'.filter p = l.filter p

namespace Grows

variable {α : Type} {x : α} {l l' m m' : List α}

theorem refl (l : List α) : Grows x l l := ⟨.refl l, fun _ _ => rfl⟩

theorem append (hl : Grows x l l') (hm : Grows x m m') : Grows x (l ++ m) (l' ++ m') where
  sublist := hl.sublist.append hm.sublist
  filter_eq p hp := by
    rw [List.filter_append, List.filter_append, hl.filter_eq p hp, hm.filter_eq p hp]

theorem singleton : Grows x [] [x] where
  sublist := List.nil_sublist _
  filter_eq p hp := by simp [hp]

theorem concat (l : List α) : Grows x l (l ++ [x]) := by
  have h := (refl (x := x) l).append singleton
  rwa [List.append_nil] at h

theorem eraseIdx_concat (l : List α) (i : Nat) : Grows x (l.eraseIdx i) ((l ++ [x]).eraseIdx i) := by
  rcases Nat.lt_or_ge i l.length with hi | hi
  · rw [List.eraseIdx_append_of_lt_length hi]
    exact concat _
  · -- the number is none of the list, and may be the one of the new item
    rw [List.eraseIdx_append_of_length_le hi, List.eraseIdx_of_length_le hi]
    cases i - l.length with
    | zero =>
      rw [List.eraseIdx_zero, List.tail_cons, List.append_nil]
      exact refl l
    | succ k => exact concat l

theorem filter (p : α → Bool) (h : Grows x l l') : Grows x (l.filter p) (l'.filter p) where
  sublist := h.sublist.filter p
  filter_eq q hq := by
    rw [List.filter_filter, List.filter_filter]
    exact h.filter_eq _ (by rw [hq, Bool.false_and])

theorem map {β : Type} (f : α → β) (h : Grows x l l') : Grows (f x) (l.map f) (l'.map f) where
  sublist := h.sublist.map f
  filter_eq p hp := by
    rw [List.filter_map, List.filter_map, h.filter_eq (p ∘ f) hp]

/-- What is new in the list is `x`. -/
theorem mem (h : Grows x l l') {y : α} (hy : y ∈ l') : y ∈ l ∨ y = x := by
  classical
  rw [or_iff_not_imp_right]
  intro hne
  have hfilter := h.filter_eq (fun z => z ≠ x) (by simp)
  have hmem : y ∈ l'.filter fun z => z ≠ x := List.mem_filter.mpr ⟨hy, by simpa using hne⟩
  rw [hfilter] at hmem
  exact (List.mem_filter.mp hmem).1

end Grows

/-- The same invocation, with arguments that have grown by `x`. -/
structure Gains (x : Argument) (v v' : Invocation) : Prop where
  grows : Grows x v.arguments v'.arguments
  eq : v' = { v with arguments := v'.arguments }

variable {x : Argument}

/-! ### Along the walk -/

/-- The second outline is the first one with arguments that have grown by `x`. -/
structure Outline.Richer (x : Argument) (f f' : Outline) : Prop where
  names : f'.names = f.names
  loc : f'.loc = f.loc
  inherits : f'.inherits = f.inherits
  arguments : Grows x f.arguments f'.arguments
  handsOn : ∀ sub, Grows x (f.handsOn sub) (f'.handsOn sub)

/-- A call hands on one more argument, but for what that argument is itself. -/
theorem grows_handedOn (hpair : pair.value.isSub = false) (c : Call) (w : Address) :
    Grows pair (handedOn c w) (handedOn (c.addPair pair) w) := by
  unfold handedOn
  split
  · rw [Call.addPair]
    split
    · exact .concat _
    · exact .refl []
  · next i =>
    have hvalue : (c.addPair pair).hash.pairs[i]?.any (fun p => p.value.isSub) =
        c.hash.pairs[i]?.any fun p => p.value.isSub := by
      rw [Call.addPair]
      rcases Nat.lt_or_ge i c.hash.pairs.length with hi | hi
      · rw [List.getElem?_append_left hi]
      · -- behind the other arguments there is only the new one, which is no sub-expression
        rw [List.getElem?_append_right hi, List.getElem?_eq_none hi]
        cases i - c.hash.pairs.length with
        | zero => exact hpair
        | succ k => rfl
    rw [hvalue]
    split
    · exact .eraseIdx_concat _ i
    · exact .refl []
  · exact .refl []

namespace Outline.Richer

theorem refl (f : Outline) : f.Richer x f := ⟨rfl, rfl, rfl, .refl _, fun _ => .refl _⟩

/-- The argument shows in the call that gets it, and in what the call hands on. -/
theorem ofCall_addPair (hpair : pair.value.isSub = false) (names : List (String × Form))
    (inherits : Bool) (here : Address) (c : Call) :
    (Outline.ofCall names inherits here c).Richer (.ofPair pair)
      (.ofCall names inherits here (c.addPair pair)) where
  names := rfl
  loc := rfl
  inherits := rfl
  arguments := by
    simp only [Outline.ofCall, Call.addPair, List.map_append, List.map_cons, List.map_nil]
    exact .concat _
  handsOn := by
    intro sub
    show Grows _ ((bequest c here sub).map Argument.ofPair)
      ((bequest (c.addPair pair) here sub).map Argument.ofPair)
    by_cases h : here <+: sub
    · obtain ⟨w, rfl⟩ := h
      rw [bequest_append, bequest_append]
      exact (grows_handedOn hpair c w).map Argument.ofPair
    · rw [bequest_eq_nil c h, bequest_eq_nil _ h]
      exact .refl _

end Outline.Richer

/-- There are nodes on both sides or on none. They stand at the same address, and the outline of the
second is richer by `x`. -/
def Richer (x : Argument) : Option NodeRef → Option NodeRef → Prop :=
  Option.Rel fun r r' => r'.address = r.address ∧ (outline r).Richer x (outline r')

namespace Richer

variable {r r' outer outer' : Option NodeRef}

theorem refl (r : Option NodeRef) : Richer x r r := by
  cases r with
  | none => exact .none
  | some r => exact .some ⟨rfl, .refl _⟩

theorem isSome_eq (h : Richer x outer outer') : outer'.isSome = outer.isSome := by
  cases h <;> rfl

theorem or (hr : Richer x r r') (h : Richer x outer outer') : Richer x (r.or outer) (r'.or outer') := by
  cases hr with
  | none => exact h
  | some hr => exact .some hr

theorem grows_handsOn (h : Richer x outer outer') (sub : Address) :
    Grows x ((outer.map outline).elim [] fun g => g.handsOn sub)
      ((outer'.map outline).elim [] fun g => g.handsOn sub) := by
  cases h with
  | none => exact .refl []
  | some h => exact h.2.handsOn sub

/-- At a stop the same names are invoked, and the arguments have grown. -/
theorem forall₂_invocations (hr : Richer x r r') (h : Richer x outer outer') :
    List.Forall₂ (Gains x) (r.toList.flatMap fun r => invocations ⟨r, outer⟩)
      (r'.toList.flatMap fun r => invocations ⟨r, outer'⟩) := by
  cases hr with
  | none => exact .nil
  | @some r r' hr =>
    obtain ⟨haddress, hr⟩ := hr
    have hgiven : Grows x ((outline r).given (outer.map outline) r.address)
        ((outline r').given (outer'.map outline) r'.address) := by
      rw [Outline.given, Outline.given, hr.inherits, haddress]
      refine hr.arguments.append ?_
      split
      · exact h.grows_handsOn r.address
      · exact .refl []
    simp only [Option.toList_some, List.flatMap_singleton, invocations_eq]
    rw [hr.names, hr.loc, List.forall₂_map_left_iff, List.forall₂_map_right_iff]
    exact List.forall₂_same.mpr fun y _ => ⟨hgiven, rfl⟩

end Richer

/-- The invocations in a piece at an address, which stands in a node. -/
def invocationsIn (p : Piece) (outer : Option NodeRef) (here : Address) : List Invocation :=
  (p.occurrences outer here).flatMap invocations

theorem invocationsIn_eq {p : Piece} {outer : Option NodeRef} {here : Address} (hp : p.Fits outer here) :
    invocationsIn p outer here =
      ((p.ref? here).toList.flatMap fun r => invocations ⟨r, outer⟩) ++
        p.children.flatMap fun y => invocationsIn y.2 ((p.ref? here).or outer) (here ++ [y.1]) := by
  rw [invocationsIn, Piece.occurrences_eq hp, List.flatMap_append, List.flatMap_map, List.flatMap_assoc]
  rfl

theorem fits_congr {p : Piece} {outer outer' : Option NodeRef} {here : Address}
    (h : outer'.isSome = outer.isSome) (hp : p.Fits outer here) : p.Fits outer' here := by
  cases p with
  | template =>
    obtain ⟨rfl, hhere⟩ : outer = none ∧ here = [] := hp
    exact ⟨Option.isNone_iff_eq_none.mp (Option.isSome_eq_false_iff.mp h), hhere⟩
  | statement => exact trivial
  | value | modifier | expression => exact h.trans hp

theorem fits_addPairAt {p : Piece} {outer : Option NodeRef} {here : Address} (a : Address)
    (hp : p.Fits outer here) : (p.addPairAt pair a).Fits outer here := by
  cases p <;> exact hp

theorem invocationsIn_expression {e : Expression} (he : e.isSub = false) (outer : Option NodeRef)
    (here : Address) : invocationsIn (.expression e) outer here = [] := by
  cases outer with
  | none => rfl
  | some r =>
    cases e with
    | sub c => cases he
    | path | string | literal | unknown => simp [invocationsIn, Expression.occurrences]

/-- What a piece invokes when the node around it has one more argument. -/
theorem forall₂_invocationsIn {p : Piece} {outer outer' : Option NodeRef} {here : Address}
    (hp : p.Fits outer here) (h : Richer x outer outer') :
    List.Forall₂ (Gains x) (invocationsIn p outer here) (invocationsIn p outer' here) := by
  induction p using Piece.induct generalizing outer outer' here with
  | step p ih =>
    have hr : Richer x (p.ref? here) (p.ref? here) := .refl _
    rw [invocationsIn_eq hp, invocationsIn_eq (fits_congr h.isSome_eq hp)]
    refine List.rel_append (hr.forall₂_invocations h) (List.forall₂_flatMap fun y hy => ?_)
    have hchild := Piece.child?_of_mem_children hy
    exact ih y.1 y.2 hchild ((Piece.holds_of_child? hchild).fits hp) (hr.or h)

theorem richer_addPairAt_nil (hpair : pair.value.isSub = false) (p : Piece) (here : Address) :
    Richer (.ofPair pair) (p.ref? here) ((p.addPairAt pair []).ref? here) := by
  rw [Piece.ref?, Piece.ref?, Piece.node?_addPairAt_nil]
  cases p.node? with
  | none => exact .none
  | some n =>
    refine .some ⟨rfl, ?_⟩
    cases n with
    | element e => exact .refl _
    | mustache c => exact .ofCall_addPair hpair _ _ here c
    | block b => exact .ofCall_addPair hpair _ _ here b.call
    | sub c => exact .ofCall_addPair hpair _ _ here c

theorem richer_addPairAt_cons (p : Piece) (here : Address) (s : Step) (a : Address) :
    Richer x (p.ref? here) ((p.addPairAt pair (s :: a)).ref? here) := by
  have houtline := outline_addPairAt_cons pair p here s a
  rw [Piece.ref?, Piece.ref?] at houtline ⊢
  cases hn : p.node? with
  | none =>
    rw [hn, Option.map_none, Option.map_none, Option.map_eq_none_iff] at houtline
    rw [houtline]
    exact .none
  | some n =>
    rw [hn, Option.map_map, Option.map_some] at houtline
    obtain ⟨n', hn', heq⟩ := Option.map_eq_some_iff.mp houtline
    rw [hn']
    exact .some ⟨rfl, (show outline ⟨here, n'⟩ = outline ⟨here, n⟩ from heq) ▸ .refl _⟩

/-- What a piece invokes when a call in it has one more argument. -/
theorem forall₂_addPairAt (hpair : pair.value.isSub = false) {p : Piece}
    {outer outer' : Option NodeRef} {here : Address} (a : Address) (hp : p.Fits outer here)
    (h : Richer (.ofPair pair) outer outer') :
    List.Forall₂ (Gains (.ofPair pair)) (invocationsIn p outer here)
      (invocationsIn (p.addPairAt pair a) outer' here) := by
  induction a generalizing p outer outer' here with
  | nil =>
    have hr := richer_addPairAt_nil hpair p here
    -- the walk does not stop in the value of the new argument
    have hvalue : ∀ s : Step, invocationsIn (.expression pair.value)
        (((p.addPairAt pair []).ref? here).or outer') (here ++ [s]) = [] :=
      fun s => invocationsIn_expression hpair _ _
    rw [invocationsIn_eq hp, invocationsIn_eq (fits_addPairAt [] (fits_congr h.isSome_eq hp)),
      Piece.flatMap_children_addPairAt_nil p hvalue]
    refine List.rel_append (hr.forall₂_invocations h) (List.forall₂_flatMap fun y hy => ?_)
    exact forall₂_invocationsIn ((Piece.holds_of_child? (Piece.child?_of_mem_children hy)).fits hp) (hr.or h)
  | cons s a ih =>
    have hr : Richer (.ofPair pair) (p.ref? here) ((p.addPairAt pair (s :: a)).ref? here) :=
      richer_addPairAt_cons p here s a
    rw [invocationsIn_eq hp, invocationsIn_eq (fits_addPairAt (s :: a) (fits_congr h.isSome_eq hp)),
      Piece.children_addPairAt_cons, List.flatMap_map]
    refine List.rel_append (hr.forall₂_invocations h) (List.forall₂_flatMap fun y hy => ?_)
    have hfits := (Piece.holds_of_child? (Piece.child?_of_mem_children hy)).fits hp
    by_cases hs : s = y.1
    · simp only [if_pos hs]
      exact ih hfits (hr.or h)
    · simp only [if_neg hs]
      exact forall₂_invocationsIn hfits (hr.or h)

/-! ### What the checks make of it -/

namespace Gains

variable {v v' : Invocation} (source : Source)

theorem isMain_eq (h : Gains x v v') : v'.isMain = v.isMain := by
  rw [h.eq]
  rfl

/-- Only the new argument can be reported in addition. -/
theorem grows_checkActions (h : Gains x v v') :
    Grows (plainAction source x) (checkActions source v) (checkActions source v') := by
  rw [checkActions, checkActions, h.isMain_eq]
  split
  · exact (h.grows.filter _).map _
  · exact .refl []

theorem checkActions_eq (hx : (x.isNamed isAction && x.isLiteral) = false) (h : Gains x v v') :
    checkActions source v' = checkActions source v := by
  rw [checkActions, checkActions, h.isMain_eq, h.grows.filter_eq _ hx]

/-- What is missing now was missing before. -/
theorem unmet?_eq_some {needed : List String} (h : Gains x v v') (hv' : unmet? v' = some needed) :
    unmet? v = some needed := by
  obtain ⟨hgrows, heq⟩ := h
  rw [heq, unmet?, Option.filter_eq_some_iff, Bool.and_eq_true, Bool.not_eq_true'] at hv'
  obtain ⟨hneeded, hop, hnone⟩ := hv'
  rw [unmet?, Option.filter_eq_some_iff, Bool.and_eq_true, Bool.not_eq_true']
  refine ⟨hneeded, hop, ?_⟩
  rw [List.any_eq_false] at hnone ⊢
  exact fun a ha => hnone a (hgrows.sublist.subset ha)

theorem sublist_checkRequirements (h : Gains x v v') :
    (checkRequirements source v').Sublist (checkRequirements source v) := by
  rw [checkRequirements_eq, checkRequirements_eq]
  cases hv' : unmet? v' with
  | none => exact List.nil_sublist _
  | some needed =>
    rw [h.unmet?_eq_some hv', h.eq]
    exact List.Sublist.refl _

end Gains

/-! ### What the engine reports -/

variable {e : Engine} {file : String}

/-- The diagnostics of the header rule whose messages begin in the given way. -/
def reportsWith (start : String) (ds : List Diagnostic) : List Diagnostic :=
  ds.filter fun d => d.rule = "header-main" && d.message.startsWith start

/-- The diagnostics about actions as plain texts. -/
def plainActionReports (e : Engine) (t : Template) (source : Source) (file : String) : List Diagnostic :=
  reportsWith "Use of actions as Strings" (e.lintTemplate t source file)

/-- The diagnostics about arguments that are missing. -/
def missingReports (e : Engine) (t : Template) (source : Source) (file : String) : List Diagnostic :=
  reportsWith "Component \"" (e.lintTemplate t source file)

section Reports

variable (h : (e.active file).filter (·.id = "header-main") = [rule true])

include h

theorem help_eq_description : Engine.help (e.active file) (rule true) = info.description := by
  rw [Engine.help, ← List.head?_filter]
  exact congrArg (fun l : List Rule => l.head?.bind (·.info.description)) h

/-- At a stop, the diagnostics of the header rule are those of its findings. -/
theorem reportsWith_active (source : Source) (start : String) (o : Occurrence) :
    reportsWith start ((e.active file).flatMap fun r =>
      (r.check source o).map (e.diagnose file (Engine.help (e.active file) r) r)) =
      ((check source o).filter fun f => f.message.startsWith start).map (ofFinding e file) := by
  -- to pick out diagnostics by the name of their rule is to pick out the rule
  have hrule : ∀ r : Rule, reportsWith start
      ((r.check source o).map (e.diagnose file (Engine.help (e.active file) r) r)) =
      if r.id = "header-main" then
        ((r.check source o).filter fun f => f.message.startsWith start).map
          (e.diagnose file (Engine.help (e.active file) r) r)
      else [] := by
    intro r
    rw [reportsWith, List.filter_map]
    by_cases hid : r.id = "header-main" <;> simp [Function.comp_def, Engine.diagnose, hid]
  have hfilter := List.flatMap_filter (fun r => r.id = "header-main")
    (fun r => ((r.check source o).filter fun f => f.message.startsWith start).map
      (e.diagnose file (Engine.help (e.active file) r) r)) (e.active file)
  simp only [decide_eq_true_eq, h, List.flatMap_singleton, help_eq_description h] at hfilter
  rw [reportsWith, List.filter_flatMap]
  exact (List.flatMap_congr fun r _ => hrule r).trans hfilter.symm

/-- Among other rules, the header rule reports what is wrong with the invocations of the template. -/
theorem reportsWith_lintTemplate (t : Template) (source : Source) (start : String) :
    reportsWith start (e.lintTemplate t source file) =
      (invocationsIn (.template t) none []).flatMap fun v =>
        ((checkInvocation source v).filter fun f => f.message.startsWith start).map (ofFinding e file) := by
  rw [Engine.lintTemplate_eq_reportsOf, Engine.reportsOf, reportsWith, List.filter_flatMap,
    invocationsIn, List.flatMap_assoc]
  refine List.flatMap_congr fun o _ => (reportsWith_active h source start o).trans ?_
  rw [check, List.filter_flatMap, List.map_flatMap]

theorem plainActionReports_eq (t : Template) (source : Source) :
    plainActionReports e t source file = (invocationsIn (.template t) none []).flatMap fun v =>
      (checkActions source v).map (ofFinding e file) := by
  rw [plainActionReports, reportsWith_lintTemplate h]
  simp only [filter_checkInvocation_actions]

theorem missingReports_eq (t : Template) (source : Source) :
    missingReports e t source file = (invocationsIn (.template t) none []).flatMap fun v =>
      (checkRequirements source v).map (ofFinding e file) := by
  rw [missingReports, reportsWith_lintTemplate h]
  simp only [filter_checkInvocation_requirements]

variable {t t' : Template} (hgains : List.Forall₂ (Gains x) (invocationsIn (.template t) none [])
  (invocationsIn (.template t') none [])) (source : Source)

include hgains

theorem grows_plainActionReports :
    Grows (ofFinding e file (plainAction source x)) (plainActionReports e t source file)
      (plainActionReports e t' source file) := by
  rw [plainActionReports_eq h, plainActionReports_eq h]
  refine hgains.flatMap_rel (S := Grows _) (.refl []) (fun _ _ _ _ => Grows.append) ?_
  intro v v' hv
  exact (hv.grows_checkActions source).map _

theorem plainActionReports_congr (hx : (x.isNamed isAction && x.isLiteral) = false) :
    plainActionReports e t' source file = plainActionReports e t source file := by
  rw [plainActionReports_eq h, plainActionReports_eq h]
  refine hgains.flip.flatMap_rel (S := Eq) rfl (fun _ _ _ _ => congrArg₂ (· ++ ·)) ?_
  intro v' v hv
  rw [hv.checkActions_eq source hx]

theorem missingReports_sublist :
    (missingReports e t' source file).Sublist (missingReports e t source file) := by
  rw [missingReports_eq h, missingReports_eq h]
  refine hgains.flip.flatMap_rel (S := List.Sublist) (.refl []) (fun _ _ _ _ => List.Sublist.append) ?_
  intro v' v hv
  exact (hv.sublist_checkRequirements source).map _

end Reports

/-- **One more named argument.** A mustache, block statement or sub-expression anywhere in a template gets a
named argument behind the others, whose value is no sub-expression; the rest of the template stays. Then no
diagnostic about missing arguments is new, and no diagnostic about actions as plain texts is lost. New ones
of these are about the argument itself, and there is none when its value is no string or its name is none
of an action. -/
theorem arguments_monotone (h : (e.active file).filter (·.id = "header-main") = [rule true])
    {t : Template} {a : Address} {n : Node} {c : Call} (hn : t.nodeAt? a = some n)
    (hc : n.call? = some c) (pair : Pair) (hpair : ∀ c, pair.value ≠ .sub c) (source : Source) :
    ((t.addPairAt pair a).nodeAt? a = some (n.addPair pair) ∧
      (n.addPair pair).call? = some (c.addPair pair) ∧
      ∀ b p, ¬ b <+: a → t.pieceAt? b = some p → (t.addPairAt pair a).pieceAt? b = some p) ∧
    (missingReports e (t.addPairAt pair a) source file).Sublist (missingReports e t source file) ∧
    (plainActionReports e t source file).Sublist
      (plainActionReports e (t.addPairAt pair a) source file) ∧
    (∀ d ∈ plainActionReports e (t.addPairAt pair a) source file,
      d ∈ plainActionReports e t source file ∨ d = plainActionDiagnostic e file source (.pair pair)) ∧
    ((∀ s loc, pair.value ≠ .string s loc) ∨ pair.key ∉ ["back", "close", "edit", "menu"] →
      plainActionReports e (t.addPairAt pair a) source file = plainActionReports e t source file) := by
  have hgains : List.Forall₂ (Gains (.ofPair pair)) (invocationsIn (.template t) none [])
      (invocationsIn (.template (t.addPairAt pair a)) none []) := by
    have hsub : pair.value.isSub = false := by
      cases hvalue : pair.value with
      | sub c => exact absurd hvalue (hpair c)
      | path | string | literal | unknown => rfl
    exact forall₂_addPairAt hsub a ⟨rfl, rfl⟩ (.refl none)
  have hgrows := grows_plainActionReports h hgains source
  refine ⟨⟨Template.nodeAt?_addPairAt hn, ?_, ?_⟩, missingReports_sublist h hgains source, hgrows.sublist,
    ?_, ?_⟩
  · cases n <;> cases hc <;> rfl
  · intro b p hb hp
    exact Template.pieceAt?_addPairAt_of_not_prefix hp hb
  · intro d hd
    rw [← ofFinding_plainAction]
    exact hgrows.mem hd
  · intro hother
    refine plainActionReports_congr h hgains source ?_
    rw [← Bool.not_eq_true]
    intro hplain
    obtain ⟨⟨s, loc, hvalue⟩, name, hname, rfl⟩ := (isPlainAction_iff (x := .pair pair)).mp hplain
    rcases hother with hother | hother
    · exact hother s loc hvalue
    · exact hother hname

/-- A header and an operation, both of them arguments of a call that is an argument itself. -/
def headerInHash : Template :=
  let helper (name : String) : Expression :=
    .sub ⟨.path "component" {}, [.string name {}], default, {}⟩
  ⟨[.mustache ⟨.path "yield" {}, [.sub ⟨.path "hash" {}, [helper "header-main"],
    ⟨[⟨"index", helper "wrapper.headerOperationIndex", {}⟩], {}⟩, {}⟩], default, {}⟩], {}⟩

theorem arguments_monotone_headerInHash :
    let e : Engine := ⟨{}, [rule true]⟩
    let a : Address := [⟨.body, 0⟩, ⟨.param, 0⟩]
    let pair : Pair := ⟨"close", .string "close" {}, {}⟩
    let t := headerInHash.addPairAt pair a
    (e.active "page.hbs").filter (·.id = "header-main") = [rule true] ∧
    (∃ n c, headerInHash.nodeAt? a = some n ∧ n.call? = some c ∧
      t.nodeAt? a = some (n.addPair pair) ∧ (n.addPair pair).call? = some (c.addPair pair)) ∧
    (∀ c, pair.value ≠ .sub c) ∧
    (missingReports e t .empty "page.hbs").Sublist (missingReports e headerInHash .empty "page.hbs") ∧
    (plainActionReports e headerInHash .empty "page.hbs").Sublist
      (plainActionReports e t .empty "page.hbs") ∧
    (missingReports e headerInHash .empty "page.hbs").length = 1 ∧
    (missingReports e t .empty "page.hbs").length = 0 ∧
    (plainActionReports e headerInHash .empty "page.hbs").length = 0 ∧
    (plainActionReports e t .empty "page.hbs").length = 1 := by
  intro e a pair t
  have hactive : (e.active "page.hbs").filter (·.id = "header-main") = [rule true] := rfl
  have hn : ∃ n c, headerInHash.nodeAt? a = some n ∧ n.call? = some c := ⟨_, _, rfl, rfl⟩
  obtain ⟨n, c, hn, hc⟩ := hn
  obtain ⟨⟨hnode, hcall, -⟩, hmissing, hplain, -⟩ := arguments_monotone hactive hn hc pair nofun .empty
  refine ⟨rfl, ⟨n, c, hn, hc, hnode, hcall⟩, nofun, hmissing, hplain, ?_, ?_, ?_, ?_⟩
  all_goals decide +kernel

end TemplateLint.Header
