import TemplateLint.Proofs.Walk

/-!
# One more named argument in a template

`Template.addPairAt` gives one more named argument to the call at an address. The change goes down the
template along the address: in every piece on the way one branch has one item changed (`Step.modify`), and
the call at the end gets the argument behind those that it has.

* `branch_addPairAt_cons`, `branch_addPairAt_nil`: what the change does to one piece, on the way and at the
  end of it. One case for each kind of piece; all else follows from these two.
* `children_addPairAt_cons`, `flatMap_children_addPairAt_nil`: the same for all that a piece holds, in the
  form that the walk needs.
* `nodeAt?_addPairAt`, `pieceAt?_addPairAt_of_not_prefix`: the node at the address has the argument, and a
  piece that does not hold this node is what it was.
-/

namespace TemplateLint

/-! ### One more named argument in a template -/

namespace Step

/-- The items of a branch, with the one changed that the step leads to. -/
def modify {α : Type} (s : Step) (b : Branch) (f : α → α) (l : List α) : List α :=
  if s.branch = b then l.modify s.index f else l

end Step

/-- The call with the expression changed that the step leads to. -/
def Call.modifyArgument (s : Step) (f : Expression → Expression) (c : Call) : Call where
  callee := if s = ⟨.callee, 0⟩ then f c.callee else c.callee
  params := s.modify .param f c.params
  hash := { c.hash with pairs := s.modify .pair (fun p => { p with value := f p.value }) c.hash.pairs }
  loc := c.loc

/-- The expression with one more named argument for the sub-expression at an address. -/
def Expression.addPairAt (pair : Pair) : Address → Expression → Expression
  | [], .sub c => .sub (c.addPair pair)
  | s :: a, .sub c => .sub (c.modifyArgument s fun e => Expression.addPairAt pair a e)
  | _, e => e

/-- The call with one more named argument for the call at an address inside of it. -/
def Call.addPairBelow (pair : Pair) : Address → Call → Call
  | [], c => c
  | s :: a, c => c.modifyArgument s (Expression.addPairAt pair a)

/-- The call with one more named argument for the call at an address. -/
def Call.addPairAt (pair : Pair) : Address → Call → Call
  | [], c => c.addPair pair
  | s :: a, c => c.modifyArgument s (Expression.addPairAt pair a)

/-- The value with one more named argument for the call at an address. -/
def AttributeValue.addPairAt (pair : Pair) : Address → AttributeValue → AttributeValue
  | a, .mustache c => .mustache (c.addPairAt pair a)
  | s :: a, .concat parts loc =>
    .concat (s.modify .part (fun v => AttributeValue.addPairAt pair a v) parts) loc
  | _, v => v

/-- The statement with one more named argument for the call at an address. -/
def Statement.addPairAt (pair : Pair) : Address → Statement → Statement
  | a, .mustache c => .mustache (c.addPairAt pair a)
  | [], .block b => .block { b with call := b.call.addPair pair }
  | s :: a, .block b =>
    .block
      { call := b.call.modifyArgument s (Expression.addPairAt pair a)
        program := { b.program with
          body := s.modify .program (fun st => Statement.addPairAt pair a st) b.program.body }
        inverse := b.inverse.map fun other => { other with
          body := s.modify .inverse (fun st => Statement.addPairAt pair a st) other.body } }
  | s :: a, .element e =>
    .element
      { e with
        attributes := s.modify .value (fun x => { x with value := x.value.addPairAt pair a }) e.attributes
        modifiers := s.modify .modifier (Call.addPairBelow pair a) e.modifiers
        children := s.modify .child (fun st => Statement.addPairAt pair a st) e.children }
  | _, st => st

/-- The template with one more named argument for the mustache, block statement or sub-expression at an
address. -/
def Template.addPairAt (pair : Pair) : Address → Template → Template
  | [], t => t
  | s :: a, t => { t with body := s.modify .body (Statement.addPairAt pair a) t.body }

/-- The node with one more named argument, if it is a call. -/
def Node.addPair (pair : Pair) : Node → Node
  | element e => element e
  | mustache c => mustache (c.addPair pair)
  | block b => block { b with call := b.call.addPair pair }
  | sub c => sub (c.addPair pair)

/-- The piece with one more named argument for the call at an address. A modifier is not counted as a
call. -/
def Piece.addPairAt (pair : Pair) (a : Address) : Piece → Piece
  | template t => template (t.addPairAt pair a)
  | statement st => statement (st.addPairAt pair a)
  | value v => value (v.addPairAt pair a)
  | modifier c => modifier (c.addPairBelow pair a)
  | expression e => expression (e.addPairAt pair a)

/-! ### Step by step -/

namespace Step

variable {α β : Type} (s : Step) (b : Branch)

theorem getElem?_modify (f : α → α) (l : List α) (i : Nat) :
    (s.modify b f l)[i]? = if s = ⟨b, i⟩ then l[i]?.map f else l[i]? := by
  obtain ⟨c, j⟩ := s
  by_cases hc : c = b
  · subst hc
    by_cases hj : j = i
    · simp [modify, hj]
    · simp [modify, hj]
  · simp [modify, hc]

theorem map_modify {f : α → α} {g : α → β} {h : β → β} (heq : ∀ x, g (f x) = h (g x)) (l : List α) :
    (s.modify b f l).map g = s.modify b h (l.map g) := by
  apply List.ext_getElem?
  intro i
  simp only [List.getElem?_map, getElem?_modify]
  split
  · simp [heq, Function.comp_def]
  · rfl

/-- What the change keeps of each item, it keeps of the list. -/
theorem map_modify_of_eq {f : α → α} {g : α → β} (heq : ∀ x, g (f x) = g x) (l : List α) :
    (s.modify b f l).map g = l.map g := by
  rw [map_modify s b (h := id) heq, modify, List.modify_id, ite_self]

@[simp] theorem modify_nil (f : α → α) : s.modify b f [] = [] := by
  simp [modify]

end Step

variable {pair : Pair}

theorem Call.branch_modifyArgument (c : Call) (s : Step) {f : Expression → Expression}
    {g : Piece → Piece} (hg : ∀ e, .expression (f e) = g (.expression e)) (b : Branch) :
    (c.modifyArgument s f).branch b = s.modify b g (c.branch b) := by
  cases b with
  | callee =>
    obtain ⟨b, i⟩ := s
    cases i with
    | zero => by_cases hb : b = .callee <;> simp [modifyArgument, branch, Step.modify, hb, hg]
    | succ i => simp [modifyArgument, branch, Step.modify]
  | param => exact Step.map_modify s .param hg c.params
  | pair => exact Step.map_modify s .pair (fun p => hg p.value) c.hash.pairs
  | body | value | part | modifier | child | program | inverse => simp [branch]

namespace Piece

/-- Inside of a piece, the change goes on in the piece that the first step leads to. -/
theorem branch_addPairAt_cons (p : Piece) (s : Step) (a : Address) (b : Branch) :
    (p.addPairAt pair (s :: a)).branch b = s.modify b (addPairAt pair a) (p.branch b) := by
  have hcall : ∀ c : Call, (c.modifyArgument s (Expression.addPairAt pair a)).branch b =
      s.modify b (addPairAt pair a) (c.branch b) :=
    fun c => c.branch_modifyArgument s (fun _ => rfl) b
  cases p with
  | template t =>
    cases b with
    | body => exact s.map_modify .body (g := statement) (h := addPairAt pair a) (fun _ => rfl) _
    | _ => simp [addPairAt, branch]
  | modifier c => exact hcall c
  | statement st =>
    cases st with
    | mustache c => exact hcall c
    | block st =>
      obtain ⟨call, program, inverse⟩ := st
      cases b with
      | program => exact s.map_modify .program (g := statement) (h := addPairAt pair a) (fun _ => rfl) _
      | inverse =>
        cases inverse with
        | none => simp [addPairAt, Statement.addPairAt, branch]
        | some other =>
          exact s.map_modify .inverse (g := statement) (h := addPairAt pair a) (fun _ => rfl) _
      | _ => exact hcall call
    | element e =>
      cases b with
      | value =>
        exact s.map_modify .value (g := fun x : Attribute => value x.value) (h := addPairAt pair a)
          (fun _ => rfl) _
      | modifier => exact s.map_modify .modifier (g := modifier) (h := addPairAt pair a) (fun _ => rfl) _
      | child => exact s.map_modify .child (g := statement) (h := addPairAt pair a) (fun _ => rfl) _
      | _ => simp [addPairAt, Statement.addPairAt, branch]
    | text | comment | unknown => simp [addPairAt, Statement.addPairAt, branch]
  | value v =>
    cases v with
    | mustache c => exact hcall c
    | concat parts loc =>
      cases b with
      | part => exact s.map_modify .part (g := value) (h := addPairAt pair a) (fun _ => rfl) _
      | _ => simp [addPairAt, AttributeValue.addPairAt, branch]
    | text | unknown => simp [addPairAt, AttributeValue.addPairAt, branch]
  | expression e =>
    cases e with
    | sub c => exact hcall c
    | path | string | literal | unknown => simp [addPairAt, Expression.addPairAt, branch]

theorem child?_addPairAt_cons (p : Piece) (s : Step) (a : Address) (s' : Step) :
    (p.addPairAt pair (s :: a)).child? s' =
      if s = s' then (p.child? s').map (addPairAt pair a) else p.child? s' := by
  rw [child?, branch_addPairAt_cons, Step.getElem?_modify]
  rfl

theorem children_addPairAt_cons (p : Piece) (s : Step) (a : Address) :
    (p.addPairAt pair (s :: a)).children =
      p.children.map fun x => (x.1, if s = x.1 then x.2.addPairAt pair a else x.2) := by
  simp only [children, List.map_flatMap, branch_addPairAt_cons]
  refine List.flatMap_congr fun b _ => ?_
  apply List.ext_getElem?
  intro i
  simp only [List.getElem?_map, List.getElem?_zipIdx, Step.getElem?_modify, Nat.zero_add]
  cases (p.branch b)[i]? <;> by_cases hs : s = ⟨b, i⟩ <;> simp [hs]

/-- The call itself has one more argument behind the others. -/
theorem branch_addPairAt_nil (pair : Pair) (p : Piece) (b : Branch) :
    ∃ more, (∀ q ∈ more, q = .expression pair.value) ∧
      (p.addPairAt pair []).branch b = p.branch b ++ more := by
  have hsame : ∃ more, (∀ q ∈ more, q = .expression pair.value) ∧ p.branch b = p.branch b ++ more :=
    ⟨[], nofun, (List.append_nil _).symm⟩
  have hcall : ∀ c : Call, ∃ more, (∀ q ∈ more, q = .expression pair.value) ∧
      (c.addPair pair).branch b = c.branch b ++ more := by
    intro c
    cases b with
    | pair => exact ⟨[.expression pair.value], by simp, by simp [Call.addPair, Call.branch]⟩
    | _ => exact ⟨[], nofun, (List.append_nil _).symm⟩
  cases p with
  | template | modifier => exact hsame
  | statement st =>
    cases st with
    | mustache c => exact hcall c
    | block st =>
      cases b with
      | program | inverse => exact hsame
      | _ => exact hcall st.call
    | element | text | comment | unknown => exact hsame
  | value v =>
    cases v with
    | mustache c => exact hcall c
    | concat | text | unknown => exact hsame
  | expression e =>
    cases e with
    | sub c => exact hcall c
    | path | string | literal | unknown => exact hsame

theorem child?_addPairAt_nil {p q : Piece} {s : Step} (h : p.child? s = some q) :
    (p.addPairAt pair []).child? s = some q := by
  obtain ⟨more, -, heq⟩ := branch_addPairAt_nil pair p s.branch
  obtain ⟨hlt, -⟩ := List.getElem?_eq_some_iff.mp h
  rw [child?, heq, List.getElem?_append_left hlt]
  exact h

theorem flatMap_children_addPairAt_nil {γ : Type} (p : Piece) {f : Step × Piece → List γ}
    (hf : ∀ s, f (s, .expression pair.value) = []) :
    (p.addPairAt pair []).children.flatMap f = p.children.flatMap f := by
  rw [flatMap_children, flatMap_children]
  refine List.flatMap_congr fun b _ => ?_
  obtain ⟨more, hmore, heq⟩ := branch_addPairAt_nil pair p b
  have hnone : ((more.zipIdx (0 + (p.branch b).length)).flatMap fun x => f (⟨b, x.2⟩, x.1)) = [] := by
    rw [List.flatMap_eq_nil_iff]
    rintro ⟨q, i⟩ hq
    rw [hmore q (List.fst_mem_of_mem_zipIdx hq)]
    exact hf _
  rw [heq, List.zipIdx_append, List.flatMap_append, hnone, List.append_nil]

/-! ### What is where now -/

theorem node?_addPairAt_nil (p : Piece) :
    (p.addPairAt pair []).node? = p.node?.map (Node.addPair pair) := by
  cases p with
  | template | modifier => rfl
  | statement st => cases st <;> rfl
  | value v => cases v <;> rfl
  | expression e => cases e <;> rfl

/-- The piece at the address gets the argument. -/
theorem at?_addPairAt (pair : Pair) (p : Piece) (a : Address) :
    (p.addPairAt pair a).at? a = (p.at? a).map (addPairAt pair []) := by
  induction a generalizing p with
  | nil => rfl
  | cons s a ih =>
    rw [at?, at?, child?_addPairAt_cons, if_pos rfl]
    cases p.child? s with
    | none => rfl
    | some q => exact ih q

/-- A piece that does not hold the address stays as it is. -/
theorem at?_addPairAt_of_not_prefix {p q : Piece} {a b : Address} (hb : p.at? b = some q)
    (hab : ¬ b <+: a) : (p.addPairAt pair a).at? b = some q := by
  induction b generalizing p a with
  | nil => exact absurd List.nil_prefix hab
  | cons s b ih =>
    obtain ⟨r, hr, hrest⟩ := Option.bind_eq_some_iff.mp hb
    rw [at?]
    cases a with
    | nil => rw [child?_addPairAt_nil hr, Option.bind_some, hrest]
    | cons s' a =>
      rw [child?_addPairAt_cons, hr]
      by_cases hs : s' = s
      · subst hs
        rw [if_pos rfl]
        exact ih hrest fun h => hab (List.cons_prefix_cons.mpr ⟨rfl, h⟩)
      · rw [if_neg hs, Option.bind_some, hrest]

end Piece

namespace Template

theorem nodeAt?_addPairAt {t : Template} {a : Address} {n : Node} (h : t.nodeAt? a = some n) :
    (t.addPairAt pair a).nodeAt? a = some (n.addPair pair) := by
  obtain ⟨p, hp, hn⟩ := nodeAt?_eq_some_iff.mp h
  refine nodeAt?_eq_some_iff.mpr ⟨p.addPairAt pair [], ?_, ?_⟩
  · have hat := Piece.at?_addPairAt pair (.template t) a
    rw [show (Piece.template t).at? a = some p from hp] at hat
    exact hat
  · rw [Piece.node?_addPairAt_nil, hn, Option.map_some]

theorem pieceAt?_addPairAt_of_not_prefix {t : Template} {a b : Address} {p : Piece}
    (hb : t.pieceAt? b = some p) (hab : ¬ b <+: a) : (t.addPairAt pair a).pieceAt? b = some p :=
  Piece.at?_addPairAt_of_not_prefix hb hab

end Template

end TemplateLint
