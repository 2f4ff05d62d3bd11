import TemplateLint.Proofs.Positions
import TemplateLint.Proofs.Reading
import TemplateLint.Template.Reader
import TemplateLint.Template.Writer

/-!
# What is written is read back

A node that is written as a JSON value is read back from it, whatever it holds. The writer follows the
tree. The reader goes down to a number of levels, which the plain names take from the depth of the value.
So the round trip is shown for every number of levels that is large enough, by induction on it: the nodes
in a node are less deep than the node, and one level less is enough for them.

* `Call.readWith_fields`, `Element.readWith_fields`, `BlockStatement.readWith_fields`: a node is read back
  when the nodes in it are.
* `Expression.readLevels_toJson`, `AttributeValue.readLevels_toJson`, `Statement.readLevels_toJson`: the
  three inductions.
* `Template.read_object`: a template is read from every object with the right members, so that further
  members do no harm.
* `nodes_round_trip`: all of it, and that what was read once is written in a form that stays.
-/

namespace TemplateLint

open Json (Reader)

/-! ### Places -/

@[simp] theorem Position.read_toJson (nested : Bool) (p : Position) :
    Position.read nested p.toJson = .ok p := by
  simp [Position.read, Position.toJson, List.lookup_cons]

@[simp] theorem Span.read_toJson (nested : Bool) (s : Span) : Span.read nested s.toJson = .ok s := by
  simp [Span.read, Span.toJson, List.lookup_cons]

/-! ### Lists of nodes -/

theorem expressionsJson_eq (es : List Expression) : expressionsJson es = es.map Expression.toJson := by
  induction es with
  | nil => rw [expressionsJson]; rfl
  | cons e es ih => rw [expressionsJson, ih, List.map_cons]

theorem pairsJson_eq (ps : List Pair) : pairsJson ps = ps.map Pair.toJson := by
  induction ps with
  | nil => rw [pairsJson]; rfl
  | cons p ps ih => rw [pairsJson, ih, List.map_cons]

theorem attributeValuesJson_eq (vs : List AttributeValue) :
    attributeValuesJson vs = vs.map AttributeValue.toJson := by
  induction vs with
  | nil => rw [attributeValuesJson]; rfl
  | cons v vs ih => rw [attributeValuesJson, ih, List.map_cons]

theorem statementsJson_eq (ss : List Statement) : statementsJson ss = ss.map Statement.toJson := by
  induction ss with
  | nil => rw [statementsJson]; rfl
  | cons s ss ih => rw [statementsJson, ih, List.map_cons]

/-! ### Calls -/

theorem Pair.readWith_toJson {read : Reader Expression} {nested : Bool} {p : Pair}
    (h : read p.value.toJson = .ok p.value) : Pair.readWith read nested p.toJson = .ok p := by
  obtain ⟨key, value, loc⟩ := p
  simp [Pair.readWith, Pair.toJson, List.lookup_cons, Json.readText, h]

/-- Named arguments are read back by a reader that reads back their values. -/
theorem Hash.readWith_toJson {read : Reader Expression} {nested : Bool} {hash : Hash}
    (h : ∀ p ∈ hash.pairs, read p.value.toJson = .ok p.value) :
    Hash.readWith read nested hash.toJson = .ok hash := by
  obtain ⟨pairs, loc⟩ := hash
  have hpairs : Json.readList (Pair.readWith read nested) (.array (pairs.map Pair.toJson)) = .ok pairs :=
    Json.readList_map fun p hp => Pair.readWith_toJson (h p hp)
  simp [Hash.readWith, Hash.toJson, pairsJson_eq, List.lookup_cons, hpairs]

/-- A call is read back by a reader that reads back the expressions that the call holds. -/
theorem Call.readWith_fields {name : String} {read : Reader Expression} {nested : Bool} {c : Call}
    (h : ∀ s e, c.Holds s e → read e.toJson = .ok e) :
    Call.readWith name read nested (.object c.fields) = .ok c := by
  obtain ⟨callee, params, hash, loc⟩ := c
  have hcallee : read callee.toJson = .ok callee := h _ _ .callee
  have hparams : Json.readList read (.array (params.map Expression.toJson)) = .ok params := by
    refine Json.readList_map fun e he => ?_
    obtain ⟨i, hi⟩ := List.mem_iff_getElem?.mp he
    exact h _ _ (.param hi)
  have hhash : Hash.readWith read nested hash.toJson = .ok hash := by
    refine Hash.readWith_toJson fun p hp => ?_
    obtain ⟨i, hi⟩ := List.mem_iff_getElem?.mp hp
    exact h _ _ (.pair hi)
  simp [Call.readWith, Call.fields, expressionsJson_eq, List.lookup_cons, hcallee,
    hparams, hhash]

/-- What a call holds is less deep than the call. -/
theorem Call.depth_lt_of_holds {c : Call} {s : Step} {e : Expression} (h : c.Holds s e) :
    e.toJson.depth < (Json.object c.fields).depth := by
  obtain ⟨callee, params, ⟨pairs, hashLoc⟩, loc⟩ := c
  cases h with
  | callee => exact Json.depth_lt_object "path" (by simp [Call.fields])
  | param hi =>
    exact Json.depth_item_lt_object "params" (List.mem_of_getElem? hi)
      (by simp [Call.fields, expressionsJson_eq])
  | @pair _ p hi =>
    -- a named argument is two nodes further down: in its pair, which is in the hash
    obtain ⟨key, value, pairLoc⟩ := p
    calc value.toJson.depth
      _ < (Pair.toJson ⟨key, value, pairLoc⟩).depth :=
        Json.depth_lt_object "value" (by simp)
      _ < (Hash.toJson ⟨pairs, hashLoc⟩).depth :=
        Json.depth_item_lt_object "pairs" (List.mem_of_getElem? hi) (by simp [pairsJson_eq])
      _ < _ := Json.depth_lt_object "hash" (by simp [Call.fields])

/-! ### Nodes of several kinds -/

theorem depth_tagged (kind : String) (fields : List (String × Json)) :
    (tagged kind fields).depth = (Json.object fields).depth := by
  simp [tagged, Json.depth, Json.depthMembers]

/-- The tag of a written node is found and taken off. No field may have its name. -/
theorem readTagged_tagged {name kind : String} {kinds : List String} {nested : Bool}
    {fields : List (String × Json)} (h : ∀ m ∈ fields, m.1 ≠ "type") :
    Json.readTagged name kinds nested (tagged kind fields) = .ok (kind, .object fields) := by
  have hfields : fields.filter (·.1 ≠ "type") = fields := by simpa using h
  rw [tagged, Json.readTagged_object List.lookup_cons_self, List.filter_cons_of_neg (by simp), hfields]

theorem Call.ne_type_of_mem_fields (c : Call) : ∀ m ∈ c.fields, m.1 ≠ "type" := by
  obtain ⟨callee, params, hash, loc⟩ := c
  simp [Call.fields]

/-- As many levels as the value is deep are enough. -/
theorem Expression.readLevels_toJson {levels : Nat} {nested : Bool} {e : Expression}
    (h : e.toJson.depth ≤ levels) : readLevels levels nested e.toJson = .ok e := by
  -- no value has depth zero, and what a sub-expression holds is read with one level less
  induction levels generalizing nested e with
  | zero => cases e <;> simp [toJson, depth_tagged, Json.depth] at h
  | succ levels ih =>
    cases e with
    | path name loc =>
      rw [readLevels, toJson, readTagged_tagged (by simp)]
      simp [readPath, List.lookup_cons, Json.readText]
    | sub c =>
      have hcall : Call.readWith "SubExpression" (readLevels levels true) true (.object c.fields) =
          .ok c := by
        refine Call.readWith_fields fun s e he => ih ?_
        have hlt := Call.depth_lt_of_holds he
        rw [toJson, depth_tagged] at h
        omega
      rw [readLevels, toJson, readTagged_tagged c.ne_type_of_mem_fields]
      simp [hcall]
    | string value loc =>
      rw [readLevels, toJson, readTagged_tagged (by simp)]
      simp [readString, List.lookup_cons, Json.readText]
    | literal kind value loc =>
      rw [readLevels, toJson, readTagged_tagged (by simp)]
      cases kind <;> simp [LiteralKind.name, readLiteral, List.lookup_cons]
    | unknown =>
      rw [readLevels, toJson, readTagged_tagged (by simp)]
      simp [Json.readUnknown]

@[simp] theorem Expression.read_toJson (nested : Bool) (e : Expression) :
    Expression.read nested e.toJson = .ok e :=
  readLevels_toJson (Nat.le_refl _)

@[simp] theorem Pair.read_toJson (nested : Bool) (p : Pair) : Pair.read nested p.toJson = .ok p :=
  readWith_toJson (Expression.read_toJson nested _)

@[simp] theorem Hash.read_toJson (nested : Bool) (hash : Hash) :
    Hash.read nested hash.toJson = .ok hash :=
  readWith_toJson fun _ _ => Expression.read_toJson nested _

@[simp] theorem Call.read_fields (name : String) (nested : Bool) (c : Call) :
    Call.read name nested (.object c.fields) = .ok c :=
  readWith_fields fun _ _ _ => Expression.read_toJson nested _

theorem readList_expressionsJson (nested : Bool) (es : List Expression) :
    Json.readList (Expression.read nested) (.array (expressionsJson es)) = .ok es := by
  rw [expressionsJson_eq]
  exact Json.readList_map fun e _ => Expression.read_toJson nested e

/-! ### Attributes -/

/-- A text is read back wherever it stands. -/
@[simp] theorem readTextNode_fields {α : Type} (make : String → Span → α) (chars : String) (loc : Span) :
    readTextNode make (.object [("chars", .string chars), ("loc", loc.toJson)]) = .ok (make chars loc) := by
  simp [readTextNode, List.lookup_cons, Json.readText]

theorem AttributeValue.depth_lt_of_mem_parts {parts : List AttributeValue} {v : AttributeValue}
    (h : v ∈ parts) (loc : Span) : v.toJson.depth < (concat parts loc).toJson.depth := by
  rw [toJson, depth_tagged]
  exact Json.depth_item_lt_object "parts" h (by simp [attributeValuesJson_eq])

/-- The parts of a value need one level less than the value, as in sub-expressions. -/
theorem AttributeValue.readLevels_toJson {levels : Nat} {nested : Bool} {v : AttributeValue}
    (h : v.toJson.depth ≤ levels) : readLevels levels nested v.toJson = .ok v := by
  induction levels generalizing nested v with
  | zero => cases v <;> simp [toJson, depth_tagged, Json.depth] at h
  | succ levels ih =>
    cases v with
    | text chars loc =>
      rw [readLevels, toJson, readTagged_tagged (by simp)]
      exact readTextNode_fields ..
    | mustache c =>
      rw [readLevels, toJson, readTagged_tagged c.ne_type_of_mem_fields]
      simp
    | concat parts loc =>
      have hparts : Json.readList (readLevels levels true) (.array (parts.map toJson)) =
          .ok parts := by
        refine Json.readList_map fun v hv => ih ?_
        have hlt := depth_lt_of_mem_parts hv loc
        omega
      rw [readLevels, toJson, readTagged_tagged (by simp)]
      simp [readConcat, List.lookup_cons, attributeValuesJson_eq, hparts]
    | unknown =>
      rw [readLevels, toJson, readTagged_tagged (by simp)]
      simp [Json.readUnknown]

@[simp] theorem AttributeValue.read_toJson (nested : Bool) (v : AttributeValue) :
    AttributeValue.read nested v.toJson = .ok v :=
  readLevels_toJson (Nat.le_refl _)

@[simp] theorem Attribute.read_toJson (nested : Bool) (a : Attribute) :
    Attribute.read nested a.toJson = .ok a := by
  simp [Attribute.read, Attribute.toJson, List.lookup_cons, Json.readText]

/-! ### Statements -/

theorem Block.readWith_toJson {name : String} {read : Reader Statement} {nested : Bool} {b : Block}
    (h : ∀ s ∈ b.body, read s.toJson = .ok s) : Block.readWith name read nested b.toJson = .ok b := by
  obtain ⟨body, loc⟩ := b
  have hbody : Json.readList read (.array (body.map Statement.toJson)) = .ok body :=
    Json.readList_map h
  simp [Block.readWith, Block.toJson, statementsJson_eq, List.lookup_cons, hbody]

/-- An element is read back by a reader that reads back its children. Its attributes and modifiers hold no
statements, so nothing is asked for them. -/
theorem Element.readWith_fields {read : Reader Statement} {nested : Bool} {e : Element}
    (h : ∀ s ∈ e.children, read s.toJson = .ok s) :
    Element.readWith read nested (.object e.fields) = .ok e := by
  obtain ⟨tag, attributes, modifiers, children, loc⟩ := e
  have hattributes : Json.readList (Attribute.read nested) (.array (attributes.map Attribute.toJson)) =
      .ok attributes := Json.readList_map fun a _ => Attribute.read_toJson nested a
  have hmodifiers : Json.readList (Call.read "ElementModifierStatement" nested)
      (.array (modifiers.map Call.toJson)) = .ok modifiers :=
    Json.readList_map fun c _ => Call.read_fields _ nested c
  have hchildren : Json.readList read (.array (children.map Statement.toJson)) = .ok children :=
    Json.readList_map h
  simp [Element.readWith, Element.fields, statementsJson_eq, List.lookup_cons, Json.readText, hattributes,
    hmodifiers, hchildren]

/-- A second body that is missing is written as `null`, and read back as missing. -/
theorem readOptional_inverseJson {read : Reader Statement} {nested : Bool} {inverse : Option Block}
    (h : ∀ s ∈ inverse.elim [] Block.body, read s.toJson = .ok s) :
    Json.readOptional (Block.readWith "Block" read nested) (inverseJson inverse) = .ok inverse := by
  cases inverse with
  | none => rfl
  | some other =>
    -- no body is written as null, so that this is not the missing one
    obtain ⟨body, loc⟩ := other
    have hother : Block.readWith "Block" read nested (Block.toJson ⟨body, loc⟩) = .ok ⟨body, loc⟩ :=
      Block.readWith_toJson h
    rw [Block.toJson] at hother
    simp [inverseJson, Block.toJson, Json.readOptional, hother, Except.map]

/-- A block statement is read back by a reader that reads back the statements of both bodies. -/
theorem BlockStatement.readWith_fields {read : Reader Statement} {nested : Bool} {b : BlockStatement}
    (hprogram : ∀ s ∈ b.program.body, read s.toJson = .ok s)
    (hinverse : ∀ s ∈ b.inverse.elim [] Block.body, read s.toJson = .ok s) :
    BlockStatement.readWith read nested (.object b.fields) = .ok b := by
  obtain ⟨⟨callee, params, hash, loc⟩, program, inverse⟩ := b
  have hprogram' : Block.readWith "Block" read nested program.toJson = .ok program :=
    Block.readWith_toJson hprogram
  have hinverse' : Json.readOptional (Block.readWith "Block" read nested) (inverseJson inverse) =
      .ok inverse := readOptional_inverseJson hinverse
  simp [BlockStatement.readWith, BlockStatement.fields, List.lookup_cons, readList_expressionsJson,
    hprogram', hinverse']

/-! The statements in a node are less deep than the node. -/

theorem Element.depth_lt_of_mem {e : Element} {s : Statement} (h : s ∈ e.children) :
    s.toJson.depth < (Json.object e.fields).depth := by
  obtain ⟨tag, attributes, modifiers, children, loc⟩ := e
  exact Json.depth_item_lt_object "children" h (by simp [Element.fields, statementsJson_eq])

theorem Block.depth_lt_of_mem {b : Block} {s : Statement} (h : s ∈ b.body) :
    s.toJson.depth < b.toJson.depth := by
  obtain ⟨body, loc⟩ := b
  rw [Block.toJson]
  exact Json.depth_item_lt_object "body" h (by simp [statementsJson_eq])

theorem BlockStatement.depth_lt_of_mem {b : BlockStatement} {s : Statement}
    (h : s ∈ b.program.body ∨ s ∈ b.inverse.elim [] Block.body) :
    s.toJson.depth < (Json.object b.fields).depth := by
  obtain ⟨⟨callee, params, hash, loc⟩, program, inverse⟩ := b
  rcases h with h | h
  · calc s.toJson.depth
      _ < program.toJson.depth := Block.depth_lt_of_mem h
      _ < _ := Json.depth_lt_object "program" (by simp [BlockStatement.fields])
  · cases inverse with
    | none => cases h
    | some other =>
      calc s.toJson.depth
        _ < other.toJson.depth := Block.depth_lt_of_mem h
        _ < _ := Json.depth_lt_object "inverse" (by simp [BlockStatement.fields, inverseJson])

theorem Element.ne_type_of_mem_fields (e : Element) : ∀ m ∈ e.fields, m.1 ≠ "type" := by
  obtain ⟨tag, attributes, modifiers, children, loc⟩ := e
  simp [Element.fields]

theorem BlockStatement.ne_type_of_mem_fields (b : BlockStatement) : ∀ m ∈ b.fields, m.1 ≠ "type" := by
  obtain ⟨⟨callee, params, hash, loc⟩, program, inverse⟩ := b
  simp [BlockStatement.fields]

/-- Of the statements only elements and block statements go a level down. -/
theorem Statement.readLevels_toJson {levels : Nat} {nested : Bool} {s : Statement}
    (h : s.toJson.depth ≤ levels) : readLevels levels nested s.toJson = .ok s := by
  induction levels generalizing nested s with
  | zero => cases s <;> simp [toJson, depth_tagged, Json.depth] at h
  | succ levels ih =>
    cases s with
    | element e =>
      rw [toJson, depth_tagged] at h
      have helement : Element.readWith (readLevels levels true) true (.object e.fields) =
          .ok e := by
        refine Element.readWith_fields fun s hs => ih ?_
        have hlt := Element.depth_lt_of_mem hs
        omega
      rw [readLevels, toJson, readTagged_tagged e.ne_type_of_mem_fields]
      simp [helement]
    | mustache c =>
      rw [readLevels, toJson, readTagged_tagged c.ne_type_of_mem_fields]
      simp
    | block b =>
      rw [toJson, depth_tagged] at h
      have hinner : ∀ s, s ∈ b.program.body ∨ s ∈ b.inverse.elim [] Block.body →
          readLevels levels true s.toJson = .ok s := by
        intro s hs
        have hlt := BlockStatement.depth_lt_of_mem hs
        exact ih (by omega)
      have hblock : BlockStatement.readWith (readLevels levels true) true (.object b.fields) = .ok b :=
        BlockStatement.readWith_fields (fun s hs => hinner s (Or.inl hs))
          fun s hs => hinner s (Or.inr hs)
      rw [readLevels, toJson, readTagged_tagged b.ne_type_of_mem_fields]
      simp [hblock]
    | text chars loc =>
      rw [readLevels, toJson, readTagged_tagged (by simp)]
      exact readTextNode_fields ..
    | comment kind value loc =>
      rw [readLevels, toJson, readTagged_tagged (by simp)]
      cases kind <;> simp [CommentKind.name, readComment, List.lookup_cons, Json.readText]
    | unknown =>
      rw [readLevels, toJson, readTagged_tagged (by simp)]
      simp [Json.readUnknown]

@[simp] theorem Statement.read_toJson (nested : Bool) (s : Statement) :
    Statement.read nested s.toJson = .ok s :=
  readLevels_toJson (Nat.le_refl _)

@[simp] theorem Block.read_toJson (nested : Bool) (b : Block) : Block.read nested b.toJson = .ok b :=
  readWith_toJson fun s _ => Statement.read_toJson nested s

/-! ### Templates -/

/-- A template is read from every object that has its statements and its place in two members. -/
theorem Template.read_object {t : Template} {ms : List (String × Json)}
    (hbody : ms.lookup "body" = some (.array (statementsJson t.body)))
    (hloc : ms.lookup "loc" = some t.loc.toJson) : Template.read (.object ms) = .ok t := by
  have hlist : Json.readList (Statement.read false) (.array (statementsJson t.body)) = .ok t.body := by
    rw [statementsJson_eq]
    exact Json.readList_map fun s _ => Statement.read_toJson false s
  -- the members that count are found whatever else the object has
  have hbody' := (Json.Record.lookup_filter_fields
    (d := ⟨"Template", [], ["body", "loc"]⟩) (by simp) ms).trans hbody
  have hloc' := (Json.Record.lookup_filter_fields
    (d := ⟨"Template", [], ["body", "loc"]⟩) (by simp) ms).trans hloc
  refine Except.bind_eq_ok_iff.mpr ⟨_, Json.Record.find_object .., ?_⟩
  refine Json.Record.conclude_eq_ok_iff.mpr ⟨?_, rfl⟩
  refine Json.Fields.seq_eq_done_iff.mpr ⟨Template.mk t.body, t.loc, ?_, ?_, rfl⟩
  · refine Json.Fields.map_eq_done_iff.mpr ⟨t.body, ?_, rfl⟩
    exact Json.Record.optional_eq_done_iff.mpr (Or.inl ⟨_, hbody', hlist⟩)
  · exact Json.Record.optional_eq_done_iff.mpr (Or.inl ⟨_, hloc', Span.read_toJson false t.loc⟩)

theorem Template.read_toJson (t : Template) : Template.read t.toJson = .ok t :=
  read_object rfl rfl

/-! ### All nodes -/

/-- What is written is read back. So what was once read is read again from what is written then, and
writing it once more changes nothing. -/
structure RoundTrips {α : Type} (read : Reader α) (write : α → Json) : Prop where
  read_write : ∀ a, read (write a) = .ok a
  stable : ∀ v a, read v = .ok a →
    read (write a) = .ok a ∧ (read (write a)).map write = (read v).map write

theorem RoundTrips.of_read_write {α : Type} {read : Reader α} {write : α → Json}
    (h : ∀ a, read (write a) = .ok a) : RoundTrips read write where
  read_write := h
  stable := by
    intro v a hv
    rw [h, hv]
    exact ⟨rfl, rfl⟩

/-- The members around those of the template do no harm, which is how a stored template with its tag is
read. -/
theorem Template.read_root {t : Template} {before after : List (String × Json)}
    (h : t.toJson = .object (before ++ after)) :
    Json.get? "type" (.object (before ++ ("type", .string "Template") :: after)) =
        some (.string "Template") ∧
      Template.read (.object (before ++ ("type", .string "Template") :: after)) = .ok t := by
  have hms : _ = before ++ after := Json.object.inj h
  constructor
  · -- the template itself has no such member
    have hnone : (before ++ after).lookup "type" = none := by
      rw [← hms]
      rfl
    rw [List.lookup_append, Option.or_eq_none_iff] at hnone
    rw [Json.get?, Json.members, List.lookup_append, hnone.1, List.lookup_cons_self]
    rfl
  · apply read_object
    · rw [List.lookup_append_cons_of_ne (by decide), ← hms]
      rfl
    · rw [List.lookup_append_cons_of_ne (by decide), ← hms]
      rfl

/-- **Every node is read back from what is written for it.** This holds for places, expressions, named
arguments, attributes, statements and bodies, at the root of a value as well as inside of a node, and for
templates. A template is also read back when its kind is added as a member, at any place, as it stands in
a file. -/
theorem nodes_round_trip :
    (∀ nested, RoundTrips (Span.read nested) Span.toJson ∧
      RoundTrips (Expression.read nested) Expression.toJson ∧
      RoundTrips (Pair.read nested) Pair.toJson ∧
      RoundTrips (Hash.read nested) Hash.toJson ∧
      RoundTrips (AttributeValue.read nested) AttributeValue.toJson ∧
      RoundTrips (Attribute.read nested) Attribute.toJson ∧
      RoundTrips (Statement.read nested) Statement.toJson ∧
      RoundTrips (Block.read nested) Block.toJson) ∧
    RoundTrips Template.read Template.toJson ∧
    ∀ (t : Template) (before after : List (String × Json)), t.toJson = .object (before ++ after) →
      Json.get? "type" (.object (before ++ ("type", .string "Template") :: after)) =
          some (.string "Template") ∧
        Template.read (.object (before ++ ("type", .string "Template") :: after)) = .ok t := by
  refine ⟨fun nested => ⟨?_, ?_, ?_, ?_, ?_, ?_, ?_, ?_⟩, ?_, fun t before after => Template.read_root⟩
  · exact .of_read_write (Span.read_toJson nested)
  · exact .of_read_write (Expression.read_toJson nested)
  · exact .of_read_write (Pair.read_toJson nested)
  · exact .of_read_write (Hash.read_toJson nested)
  · exact .of_read_write (AttributeValue.read_toJson nested)
  · exact .of_read_write (Attribute.read_toJson nested)
  · exact .of_read_write (Statement.read_toJson nested)
  · exact .of_read_write (Block.read_toJson nested)
  · exact .of_read_write Template.read_toJson

end TemplateLint
