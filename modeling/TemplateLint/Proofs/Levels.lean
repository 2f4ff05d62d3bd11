import TemplateLint.Proofs.Reading
import TemplateLint.Template.Reader

/-!
# Readers without levels

The readers of expressions, attribute values and statements go down to a number of levels. With enough
of them the number does not matter, since a node is deeper than the nodes in it. So each of these
readers satisfies the equation that one would like to define it by: the kind of a node says what its
fields are, and the nodes among them are read by the same reader.

* `Expression.read_eq`, `AttributeValue.read_eq`, `Statement.read_eq`: these equations.
* `Call.readWith_congr`, `Element.readWith_congr` and others: a structure is read by looking at values
  that are less deep, so two readers that agree on these values may replace each other.
-/

namespace TemplateLint.Json

variable {α : Type} {j : Json}

/-! ### Values in a value -/

theorem depthMembers_filter_le (p : String × Json → Bool) (ms : List (String × Json)) :
    depthMembers (ms.filter p) ≤ depthMembers ms := by
  induction ms with
  | nil => exact Nat.le_refl _
  | cons m ms ih =>
    rw [List.filter_cons]
    split
    · rw [depthMembers, depthMembers]
      omega
    · rw [depthMembers]
      omega

theorem Record.depth_lt_of_find {d : Declaration} {nested : Bool} {r : Record} {key : String} {i : Json}
    (h : find d nested j = .ok r) (hi : r.present.lookup key = some i) : i.depth < j.depth := by
  cases j with
  | object ms =>
    cases h
    exact depth_lt_object key (List.mem_filter.mp (List.mem_of_lookup hi)).1
  | array items =>
    cases h
    exact depth_lt_array (List.of_mem_zip (List.mem_of_lookup hi)).2
  | null | bool | number | string => cases h

theorem depth_le_of_readTagged {name kind : String} {kinds : List String} {nested : Bool} {fields : Json}
    (h : readTagged name kinds nested j = .ok (kind, fields)) : fields.depth ≤ j.depth := by
  cases j with
  | object ms =>
    rw [readTagged] at h
    split at h
    · cases h
    · obtain ⟨_, -, heq⟩ := Except.bind_eq_ok_iff.mp h
      cases heq
      have hle := depthMembers_filter_le (·.1 ≠ "type") ms
      rw [depth, depth]
      omega
  | array items =>
    cases items with
    | nil => cases h
    | cons tag items =>
      obtain ⟨_, -, heq⟩ := Except.bind_eq_ok_iff.mp h
      cases heq
      rw [depth, depth, depthItems]
      omega
  | null | bool | number | string => cases h

/-- A value that is neither an array nor an object is no node. -/
theorem readTagged_of_depth_eq_zero (name : String) (kinds : List String) (nested : Bool)
    (h : j.depth = 0) :
    readTagged name kinds nested j =
      .error (.wrongType j.shape ("internally tagged enum " ++ name)) := by
  cases j with
  | array | object => simp [depth] at h
  | null | bool | number | string => rfl

/-! ### Readers that agree -/

theorem readList_congr {read read' : Reader α} (h : ∀ i, i.depth < j.depth → read i = read' i) :
    readList read j = readList read' j := by
  cases j with
  | array items =>
    have hitems : ∀ i ∈ items, read i = read' i := fun i hi => h i (depth_lt_array hi)
    rw [readList, readList]
    clear h
    induction items with
    | nil => rfl
    | cons i items ih =>
      rw [List.forall_mem_cons] at hitems
      rw [List.mapM_cons, List.mapM_cons, hitems.1, ih hitems.2]
  | null | bool | number | string | object => rfl

theorem readOptional_congr {read read' : Reader α} (h : read j = read' j) :
    readOptional read j = readOptional read' j := by
  cases j with
  | null => rfl
  | bool | number | string | array | object => rw [readOptional, readOptional, h]; all_goals nofun

namespace Record

variable {r : Record} {key : String} {read read' : Reader α}

theorem required_congr (h : ∀ i, r.present.lookup key = some i → read i = read' i) :
    r.required key read = r.required key read' := by
  unfold required
  split
  · rw [h _ ‹_›]
  · rfl

theorem optional_congr {default : α} (h : ∀ i, r.present.lookup key = some i → read i = read' i) :
    r.optional key read default = r.optional key read' default := by
  unfold optional
  split
  · rw [h _ ‹_›]
  · rfl

/-- What is done with the fields of a value may be replaced by what does the same with fields that are
less deep than the value. -/
theorem bind_find_congr {d : Declaration} {nested : Bool} {f f' : Record → Except Mismatch α}
    (h : ∀ r : Record, (∀ key i, r.present.lookup key = some i → i.depth < j.depth) → f r = f' r) :
    (find d nested j >>= f) = (find d nested j >>= f') := by
  cases hr : find d nested j with
  | error => rfl
  | ok r => exact h r fun _ _ => depth_lt_of_find hr

end Record

/-! ### Nodes of several kinds -/

/-- A reader of nodes of several kinds: `levels` reads down to a number of levels, and `readAs` reads the
fields of a kind with a reader for the nodes among them. -/
structure GoesByKind (name : String) (kinds : List String) (levels : Nat → Bool → Reader α)
    (readAs : Reader α → String → Reader α) : Prop where
  zero : ∀ nested j,
    levels 0 nested j = .error (.wrongType j.shape ("internally tagged enum " ++ name))
  succ : ∀ n nested j, levels (n + 1) nested j =
    readTagged name kinds nested j >>= fun node => readAs (levels n true) node.1 node.2
  congr : ∀ {read read' : Reader α} {j : Json} (kind : String),
    (∀ i, i.depth < j.depth → read i = read' i) → readAs read kind j = readAs read' kind j

namespace GoesByKind

variable {name : String} {kinds : List String} {levels : Nat → Bool → Reader α}
  {readAs : Reader α → String → Reader α}

theorem bind_congr (h : GoesByKind name kinds levels readAs) {read read' : Reader α} {nested : Bool}
    (hread : ∀ i, i.depth < j.depth → read i = read' i) :
    (readTagged name kinds nested j >>= fun node => readAs read node.1 node.2) =
      (readTagged name kinds nested j >>= fun node => readAs read' node.1 node.2) := by
  cases hj : readTagged name kinds nested j with
  | error => rfl
  | ok node =>
    have hle : node.2.depth ≤ j.depth := depth_le_of_readTagged hj
    exact h.congr node.1 fun i hi => hread i (by omega)

theorem levels_congr (h : GoesByKind name kinds levels readAs) {m n : Nat} {nested : Bool}
    (hm : j.depth ≤ m) (hn : j.depth ≤ n) : levels m nested j = levels n nested j := by
  -- by induction on one of the numbers; where one of them is zero, the value is no node at all
  induction m generalizing n nested j with
  | zero =>
    cases n with
    | zero => rfl
    | succ n => rw [h.zero, h.succ, readTagged_of_depth_eq_zero _ _ _ (by omega)]; rfl
  | succ m ih =>
    cases n with
    | zero => rw [h.zero, h.succ, readTagged_of_depth_eq_zero _ _ _ (by omega)]; rfl
    | succ n =>
      rw [h.succ, h.succ]
      exact h.bind_congr fun i hi => ih (by omega) (by omega)

/-- With the depth of each value as the number of levels, nodes are read by the same reader as the node
around them. -/
theorem eq (h : GoesByKind name kinds levels readAs) (nested : Bool) (j : Json) :
    levels j.depth nested j = readTagged name kinds nested j >>= fun node =>
      readAs (fun i => levels i.depth true i) node.1 node.2 := by
  rw [h.levels_congr (Nat.le_refl _) (Nat.le_succ _), h.succ]
  exact h.bind_congr fun i hi => h.levels_congr (by omega) (Nat.le_refl _)

end GoesByKind

end TemplateLint.Json

namespace TemplateLint

open Json (Reader Record)

variable {nested : Bool} {j : Json}

/-! ### Expressions -/

section Expressions

variable {read read' : Reader Expression}

theorem Pair.readWith_congr (h : ∀ i, i.depth < j.depth → read i = read' i) :
    Pair.readWith read nested j = Pair.readWith read' nested j := by
  refine Record.bind_find_congr fun r hr => ?_
  rw [Record.required_congr fun i hi => h i (hr _ i hi)]

theorem Hash.readWith_congr (h : ∀ i, i.depth < j.depth → read i = read' i) :
    Hash.readWith read nested j = Hash.readWith read' nested j := by
  refine Record.bind_find_congr fun r hr => ?_
  have hpairs : ∀ i, r.present.lookup "pairs" = some i →
      Json.readList (Pair.readWith read nested) i = Json.readList (Pair.readWith read' nested) i := by
    intro i hi
    have hlt := hr _ i hi
    refine Json.readList_congr fun p hp => Pair.readWith_congr fun v hv => h v ?_
    omega
  rw [Record.optional_congr hpairs]

theorem Call.readWith_congr {name : String} (h : ∀ i, i.depth < j.depth → read i = read' i) :
    Call.readWith name read nested j = Call.readWith name read' nested j := by
  refine Record.bind_find_congr fun r hr => ?_
  have hparams : ∀ i, r.present.lookup "params" = some i →
      Json.readList read i = Json.readList read' i := by
    intro i hi
    have hlt := hr _ i hi
    exact Json.readList_congr fun e he => h e (by omega)
  have hhash : ∀ i, r.present.lookup "hash" = some i →
      Hash.readWith read nested i = Hash.readWith read' nested i := by
    intro i hi
    have hlt := hr _ i hi
    exact Hash.readWith_congr fun e he => h e (by omega)
  rw [Record.required_congr fun i hi => h i (hr _ i hi), Record.optional_congr hparams,
    Record.optional_congr hhash]

/-- Reads an expression of a kind from its fields, where `read` reads the expressions among them. -/
def Expression.readAs (read : Reader Expression) (kind : String) (fields : Json) :
    Except Json.Mismatch Expression :=
  match kind with
  | "PathExpression" => readPath fields
  | "SubExpression" => return .sub (← Call.readWith "SubExpression" read true fields)
  | "StringLiteral" => readString fields
  | "BooleanLiteral" => readLiteral .boolean fields
  | "NumberLiteral" => readLiteral .number fields
  | "NullLiteral" => readLiteral .null fields
  | "UndefinedLiteral" => readLiteral .undefined fields
  | _ => Json.readUnknown .unknown fields

theorem Expression.goesByKind : Json.GoesByKind "Expression" kinds readLevels readAs where
  zero _ _ := rfl
  succ _ _ _ := rfl
  congr kind h := by
    unfold readAs
    rw [Call.readWith_congr h]

theorem Expression.read_eq (nested : Bool) (j : Json) :
    Expression.read nested j = Json.readTagged "Expression" kinds nested j >>= fun node =>
      readAs (Expression.read true) node.1 node.2 :=
  goesByKind.eq nested j

end Expressions

/-! ### Attribute values -/

/-- Reads an attribute value of a kind from its fields, where `read` reads the values among them. -/
def AttributeValue.readAs (read : Reader AttributeValue) (kind : String) (fields : Json) :
    Except Json.Mismatch AttributeValue :=
  match kind with
  | "TextNode" => readTextNode .text fields
  | "MustacheStatement" => return .mustache (← Call.read "MustacheStatement" true fields)
  | "ConcatStatement" => readConcat read fields
  | _ => Json.readUnknown .unknown fields

theorem AttributeValue.readConcat_congr {read read' : Reader AttributeValue}
    (h : ∀ i, i.depth < j.depth → read i = read' i) : readConcat read j = readConcat read' j := by
  refine Record.bind_find_congr fun r hr => ?_
  have hparts : ∀ i, r.present.lookup "parts" = some i →
      Json.readList read i = Json.readList read' i := by
    intro i hi
    have hlt := hr _ i hi
    exact Json.readList_congr fun v hv => h v (by omega)
  rw [Record.optional_congr hparts]

theorem AttributeValue.goesByKind : Json.GoesByKind "AttrValue" kinds readLevels readAs where
  zero _ _ := rfl
  succ _ _ _ := rfl
  congr kind h := by
    unfold readAs
    rw [readConcat_congr h]

theorem AttributeValue.read_eq (nested : Bool) (j : Json) :
    AttributeValue.read nested j = Json.readTagged "AttrValue" kinds nested j >>= fun node =>
      readAs (AttributeValue.read true) node.1 node.2 :=
  goesByKind.eq nested j

/-! ### Statements -/

section Statements

variable {read read' : Reader Statement}

theorem Block.readWith_congr {name : String} (h : ∀ i, i.depth < j.depth → read i = read' i) :
    Block.readWith name read nested j = Block.readWith name read' nested j := by
  refine Record.bind_find_congr fun r hr => ?_
  have hbody : ∀ i, r.present.lookup "body" = some i →
      Json.readList read i = Json.readList read' i := by
    intro i hi
    have hlt := hr _ i hi
    exact Json.readList_congr fun s hs => h s (by omega)
  rw [Record.optional_congr hbody]

theorem Element.readWith_congr (h : ∀ i, i.depth < j.depth → read i = read' i) :
    Element.readWith read nested j = Element.readWith read' nested j := by
  refine Record.bind_find_congr fun r hr => ?_
  have hchildren : ∀ i, r.present.lookup "children" = some i →
      Json.readList read i = Json.readList read' i := by
    intro i hi
    have hlt := hr _ i hi
    exact Json.readList_congr fun s hs => h s (by omega)
  rw [Record.optional_congr hchildren]

theorem BlockStatement.readWith_congr (h : ∀ i, i.depth < j.depth → read i = read' i) :
    BlockStatement.readWith read nested j = BlockStatement.readWith read' nested j := by
  refine Record.bind_find_congr fun r hr => ?_
  have hblock : ∀ key i, r.present.lookup key = some i →
      Block.readWith "Block" read nested i = Block.readWith "Block" read' nested i := by
    intro key i hi
    have hlt := hr key i hi
    exact Block.readWith_congr fun s hs => h s (by omega)
  rw [Record.optional_congr (hblock "program"),
    Record.optional_congr fun i hi => Json.readOptional_congr (hblock "inverse" i hi)]

/-- Reads a statement of a kind from its fields, where `read` reads the statements among them. -/
def Statement.readAs (read : Reader Statement) (kind : String) (fields : Json) :
    Except Json.Mismatch Statement :=
  match kind with
  | "ElementNode" => return .element (← Element.readWith read true fields)
  | "MustacheStatement" => return .mustache (← Call.read "MustacheStatement" true fields)
  | "BlockStatement" => return .block (← BlockStatement.readWith read true fields)
  | "TextNode" => readTextNode .text fields
  | "CommentStatement" => readComment .markup fields
  | "MustacheCommentStatement" => readComment .mustache fields
  | _ => Json.readUnknown .unknown fields

theorem Statement.goesByKind : Json.GoesByKind "Statement" kinds readLevels readAs where
  zero _ _ := rfl
  succ _ _ _ := rfl
  congr kind h := by
    unfold readAs
    rw [Element.readWith_congr h, BlockStatement.readWith_congr h]

theorem Statement.read_eq (nested : Bool) (j : Json) :
    Statement.read nested j = Json.readTagged "Statement" kinds nested j >>= fun node =>
      readAs (Statement.read true) node.1 node.2 :=
  goesByKind.eq nested j

end Statements

end TemplateLint
