import TemplateLint.Proofs.Levels

/-!
# The schema of templates

A `Form` says what is expected at a place of a tree: a text, a list, a structure with certain fields, or a
node of one of several kinds. The readers follow this schema. What this means is stated as `Keeps`: from
two values at a place the same is read. A structure keeps what is read from it when its fields do, and a
node when the fields of its kind do.

* `NodeForm.fields`, `TaggedForm.known`: the schema.
* `NodeForm.readsFields`, `TaggedForm.readsFields`: every structure and every kind of nodes is read field
  by field.
* `TaggedForm.readAs_unknown`: of a node of another kind nothing is read.
-/

namespace TemplateLint

open Json (Reader Record Fields Declaration)

/-! ### The schema of templates -/

/-- Structures without a kind. -/
inductive NodeForm where
  | position
  | span
  | pair
  | hash
  | modifier
  | attr
  | block
  | template
  deriving DecidableEq, Repr

/-- Nodes that name their kind. -/
inductive TaggedForm where
  | expression
  | attributeValue
  | statement
  deriving DecidableEq, Repr

/-- What is expected at a place of a tree. -/
inductive Form where
  | text
  | word
  -- the value of a literal, which may be anything and is kept as it is
  | payload
  | list (item : Form)
  | optional (body : Form)
  | node (n : NodeForm)
  | tagged (t : TaggedForm)
  deriving DecidableEq, Repr

namespace Form

def expression : Form := tagged .expression
def statement : Form := tagged .statement
def span : Form := node .span

/-- The fields of a call. -/
def callFields : List (String × Form) :=
  [("path", expression), ("params", list expression), ("hash", node .hash), ("loc", span)]

end Form

/-- The fields of a structure in the order of their declaration. -/
def NodeForm.fields : NodeForm → List (String × Form)
  | position => [("line", .word), ("column", .word)]
  | span => [("start", .node .position), ("end", .node .position)]
  | pair => [("key", .text), ("value", .expression), ("loc", .span)]
  | hash => [("pairs", .list (.node .pair)), ("loc", .span)]
  | modifier => Form.callFields
  | attr => [("name", .text), ("value", .tagged .attributeValue), ("loc", .span)]
  | block => [("body", .list .statement), ("loc", .span)]
  | template => [("body", .list .statement), ("loc", .span)]

namespace TaggedForm

/-- The kinds that are known at a place, with their fields. -/
def known : TaggedForm → List (String × List (String × Form))
  | expression =>
    [("PathExpression", [("original", .text), ("loc", .span)]),
      ("SubExpression", Form.callFields),
      ("StringLiteral", [("value", .text), ("loc", .span)]),
      ("BooleanLiteral", [("value", .payload), ("loc", .span)]),
      ("NumberLiteral", [("value", .payload), ("loc", .span)]),
      ("NullLiteral", [("value", .payload), ("loc", .span)]),
      ("UndefinedLiteral", [("value", .payload), ("loc", .span)])]
  | attributeValue =>
    [("TextNode", [("chars", .text), ("loc", .span)]),
      ("MustacheStatement", Form.callFields),
      ("ConcatStatement", [("parts", .list (.tagged .attributeValue)), ("loc", .span)])]
  | statement =>
    [("ElementNode", [("tag", .text), ("attributes", .list (.node .attr)),
        ("modifiers", .list (.node .modifier)), ("children", .list .statement), ("loc", .span)]),
      ("MustacheStatement", Form.callFields),
      ("BlockStatement", [("path", .expression), ("params", .list .expression), ("hash", .node .hash),
        ("program", .node .block), ("inverse", .optional (.node .block)), ("loc", .span)]),
      ("TextNode", [("chars", .text), ("loc", .span)]),
      ("CommentStatement", [("value", .text), ("loc", .span)]),
      ("MustacheCommentStatement", [("value", .text), ("loc", .span)])]

/-- The kinds that a number may stand for. -/
def kinds : TaggedForm → List String
  | expression => Expression.kinds
  | attributeValue => AttributeValue.kinds
  | statement => Statement.kinds

/-- The fields of the kind that a tag names; a tag that names no known kind has none. -/
def fields? (t : TaggedForm) (tag : Json) : Option (List (String × Form)) :=
  match Json.readKind t.kinds true tag with
  | .ok kind => t.known.lookup kind
  | .error _ => none

end TaggedForm

/-! ### What is read at a place -/

/-- What is read from a structure. -/
abbrev NodeForm.Value : NodeForm → Type
  | position => Position
  | span => Span
  | pair => Pair
  | hash => Hash
  | modifier => Call
  | attr => Attribute
  | block => Block
  | template => Template

/-- What is read from a node that names its kind. -/
abbrev TaggedForm.Value : TaggedForm → Type
  | expression => Expression
  | attributeValue => AttributeValue
  | statement => Statement

/-- What is read at a place. -/
abbrev Form.Value : Form → Type
  | text => String
  | word => UInt64
  | payload => Json
  | list f => List f.Value
  | optional f => Option f.Value
  | node n => n.Value
  | tagged t => t.Value

def NodeForm.read (nested : Bool) : (n : NodeForm) → Reader n.Value
  | position => Position.read nested
  | span => Span.read nested
  | pair => Pair.read nested
  | hash => Hash.read nested
  | modifier => Call.read "ElementModifierStatement" nested
  | attr => Attribute.read nested
  | block => Block.read nested
  | template => Template.read

def TaggedForm.read (nested : Bool) : (t : TaggedForm) → Reader t.Value
  | expression => Expression.read nested
  | attributeValue => AttributeValue.read nested
  | statement => Statement.read nested

/-- The reader for a place. -/
def Form.read (nested : Bool) : (f : Form) → Reader f.Value
  | text => Json.readText
  | word => Json.readWord
  | payload => .ok
  | list f => Json.readList (f.read nested)
  | optional f => Json.readOptional (f.read nested)
  | node n => n.read nested
  | tagged t => t.read nested

/-- Whatever is read from the first value is read from the second one, and neither is null without the
other. -/
def Keeps (f : Form) (j j' : Json) : Prop :=
  (j = .null ↔ j' = .null) ∧ ∀ nested a, f.read nested j = .ok a → f.read nested j' = .ok a

theorem Keeps.refl (f : Form) (j : Json) : Keeps f j j := ⟨Iff.rfl, fun _ _ h => h⟩

theorem Keeps.optionRel_refl (f : Form) (j : Option Json) : Option.Rel (Keeps f) j j := by
  cases j with
  | none => exact .none
  | some j => exact .some (Keeps.refl f j)

theorem Keeps.exists_of_optionRel {f : Form} {j : Json} {o : Option Json}
    (h : Option.Rel (Keeps f) (some j) o) : ∃ j', o = some j' ∧ Keeps f j j' := by
  cases h with
  | some h => exact ⟨_, rfl, h⟩

theorem Keeps.eq_none_of_optionRel {f : Form} {o : Option Json} (h : Option.Rel (Keeps f) none o) :
    o = none := by
  cases h with
  | none => rfl

theorem Keeps.eq_of_payload {j j' : Json} (h : Keeps .payload j j') : j = j' :=
  (Except.ok.inj (h.2 false j rfl)).symm

theorem Keeps.eq_of_optionRel_payload {j j' : Option Json} (h : Option.Rel (Keeps .payload) j j') :
    j = j' := by
  cases h with
  | none => rfl
  | some h => rw [h.eq_of_payload]

/-! ### Structures are read field by field -/

/-- What is read from the fields stays the same when the values of the fields are replaced by values from
which the same is read. -/
def Fieldwise (fields : List (String × Form)) {α : Type} (read : Record → Fields α) : Prop :=
  ∀ r r' : Record,
    (∀ key g, fields.lookup key = some g →
      Option.Rel (Keeps g) (r.present.lookup key) (r'.present.lookup key)) →
    ∀ a, read r = .done a → read r' = .done a

namespace Fieldwise

variable {α β : Type} {fields : List (String × Form)} {key : String}

theorem map {read : Record → Fields α} (g : α → β) (h : Fieldwise fields read) :
    Fieldwise fields fun r => g <$> read r := by
  intro r r' hr b hb
  obtain ⟨a, ha, rfl⟩ := Fields.map_eq_done_iff.mp hb
  exact Fields.map_eq_done_iff.mpr ⟨a, h r r' hr a ha, rfl⟩

theorem seq {readFun : Record → Fields (α → β)} {read : Record → Fields α}
    (hf : Fieldwise fields readFun) (h : Fieldwise fields read) :
    Fieldwise fields fun r => readFun r <*> read r := by
  intro r r' hr b hb
  obtain ⟨g, a, hg, ha, rfl⟩ := Fields.seq_eq_done_iff.mp hb
  exact Fields.seq_eq_done_iff.mpr ⟨g, a, hf r r' hr g hg, h r r' hr a ha, rfl⟩

theorem required (f : Form) (nested : Bool) (hkey : fields.lookup key = some f) :
    Fieldwise fields fun r => r.required key (f.read nested) := by
  intro r r' hr a ha
  obtain ⟨j, hj, hread⟩ := Record.required_eq_done_iff.mp ha
  have hrel := hr key f hkey
  rw [hj] at hrel
  obtain ⟨j', hj', hkeeps⟩ := Keeps.exists_of_optionRel hrel
  exact Record.required_eq_done_iff.mpr ⟨j', hj', hkeeps.2 nested a hread⟩

theorem optional (f : Form) (nested : Bool) (hkey : fields.lookup key = some f) {default : f.Value} :
    Fieldwise fields fun r => r.optional key (f.read nested) default := by
  intro r r' hr a ha
  have hrel := hr key f hkey
  rcases Record.optional_eq_done_iff.mp ha with ⟨j, hj, hread⟩ | ⟨hj, rfl⟩
  · rw [hj] at hrel
    obtain ⟨j', hj', hkeeps⟩ := Keeps.exists_of_optionRel hrel
    exact Record.optional_eq_done_iff.mpr (Or.inl ⟨j', hj', hkeeps.2 nested a hread⟩)
  · rw [hj] at hrel
    exact Record.optional_eq_done_iff.mpr (Or.inr ⟨Keeps.eq_none_of_optionRel hrel, rfl⟩)

end Fieldwise

/-- A structure with the given fields is read field by field. -/
def ReadsFields (fields : List (String × Form)) {α : Type} (read : Reader α) : Prop :=
  ∃ (d : Declaration) (nested : Bool) (readFields : Record → Fields α),
    d.fields = fields.map (·.1) ∧ Fieldwise fields readFields ∧
    ∀ j a, read j = .ok a ↔
      ∃ r, Record.find d nested j = .ok r ∧ readFields r = .done a ∧ r.ending = none

namespace ReadsFields

variable {α β : Type} {fields : List (String × Form)} {read : Reader α}

theorem intro {d : Declaration} {nested : Bool} {readFields : Record → Fields α}
    (hkeys : d.fields = fields.map (·.1)) (hfields : Fieldwise fields readFields)
    (hread : ∀ j, read j = Record.find d nested j >>= fun r => r.conclude (readFields r)) :
    ReadsFields fields read := by
  refine ⟨d, nested, readFields, hkeys, hfields, fun j a => ?_⟩
  rw [hread, Except.bind_eq_ok_iff]
  simp only [Record.conclude_eq_ok_iff]

theorem map (f : α → β) (h : ReadsFields fields read) :
    ReadsFields fields fun j => do return f (← read j) := by
  obtain ⟨d, nested, readFields, hkeys, hfields, hread⟩ := h
  refine ⟨d, nested, fun r => f <$> readFields r, hkeys, hfields.map f, fun j b => ?_⟩
  rw [Except.bind_eq_ok_iff]
  simp only [hread, Fields.map_eq_done_iff]
  constructor
  · rintro ⟨a, ⟨r, hr, ha, hend⟩, hb⟩
    cases hb
    exact ⟨r, hr, ⟨a, ha, rfl⟩, hend⟩
  · rintro ⟨r, hr, ⟨a, ha, rfl⟩, hend⟩
    exact ⟨a, ⟨r, hr, ha, hend⟩, rfl⟩

/-- Only the fields of an object count. -/
theorem object (h : ReadsFields fields read) {ms ms' : List (String × Json)}
    (hrel : ∀ key g, fields.lookup key = some g →
      Option.Rel (Keeps g) (ms.lookup key) (ms'.lookup key))
    {a : α} (ha : read (.object ms) = .ok a) : read (.object ms') = .ok a := by
  obtain ⟨d, nested, readFields, hkeys, hfields, hread⟩ := h
  obtain ⟨r, hr, hdone, -⟩ := (hread _ _).mp ha
  cases hr
  refine (hread _ _).mpr ⟨_, rfl, hfields _ _ ?_ a hdone, rfl⟩
  intro key g hkey
  have hmem : key ∈ d.fields := by
    rw [hkeys]
    exact List.mem_map_of_mem (List.mem_of_lookup hkey)
  rw [Record.lookup_filter_fields hmem, Record.lookup_filter_fields hmem]
  exact hrel key g hkey

theorem zip_rel {g : Form} {before after : List Json} {j j' : Json}
    (hslot : (fields.map (·.2))[before.length]? = some g) (hkeeps : Keeps g j j') {key : String}
    {f : Form} (hkey : fields.lookup key = some f) :
    Option.Rel (Keeps f) (((fields.map (·.1)).zip (before ++ j :: after)).lookup key)
      (((fields.map (·.1)).zip (before ++ j' :: after)).lookup key) := by
  induction before generalizing fields with
  | nil =>
    cases fields with
    | nil => cases hkey
    | cons field fields =>
      obtain ⟨k, f'⟩ := field
      simp only [List.map_cons, List.length_nil, List.getElem?_cons_zero, Option.some.injEq] at hslot
      subst hslot
      simp only [List.map_cons, List.nil_append, List.zip_cons_cons, List.lookup_cons] at hkey ⊢
      split at hkey
      · cases hkey
        exact .some hkeeps
      · exact Keeps.optionRel_refl _ _
  | cons i before ih =>
    cases fields with
    | nil => cases hkey
    | cons field fields =>
      obtain ⟨k, f'⟩ := field
      simp only [List.map_cons, List.cons_append, List.zip_cons_cons, List.lookup_cons] at hkey ⊢
      split at hkey
      · exact Keeps.optionRel_refl _ _
      · exact ih hslot hkey

/-- An item of an array may be replaced by one from which the same is read. -/
theorem array (h : ReadsFields fields read) {g : Form} {before after : List Json} {j j' : Json}
    (hslot : (fields.map (·.2))[before.length]? = some g) (hkeeps : Keeps g j j') {a : α}
    (ha : read (.array (before ++ j :: after)) = .ok a) :
    read (.array (before ++ j' :: after)) = .ok a := by
  obtain ⟨d, nested, readFields, hkeys, hfields, hread⟩ := h
  obtain ⟨r, hr, hdone, hend⟩ := (hread _ _).mp ha
  cases hr
  refine (hread _ _).mpr ⟨_, rfl, hfields _ _ ?_ a hdone, ?_⟩
  · intro key f hkey
    rw [hkeys]
    exact zip_rel hslot hkeeps hkey
  · -- the length is the same, and nothing else counts for the ending
    simpa using hend

end ReadsFields

theorem Position.readsFields (nested : Bool) :
    ReadsFields NodeForm.position.fields (Position.read nested) :=
  .intro rfl (.seq (.map _ (.optional .word nested rfl)) (.optional .word nested rfl)) fun _ => rfl

theorem Span.readsFields (nested : Bool) : ReadsFields NodeForm.span.fields (Span.read nested) :=
  .intro rfl (.seq (.map _ (.optional (.node .position) nested rfl))
    (.optional (.node .position) nested rfl)) fun _ => rfl

theorem Pair.readsFields (nested : Bool) : ReadsFields NodeForm.pair.fields (Pair.read nested) :=
  .intro rfl (.seq (.seq (.map _ (.required .text nested rfl)) (.required .expression nested rfl))
    (.optional .span nested rfl)) fun _ => rfl

theorem Hash.readsFields (nested : Bool) : ReadsFields NodeForm.hash.fields (Hash.read nested) :=
  .intro rfl (.seq (.map _ (.optional (.list (.node .pair)) nested rfl)) (.optional .span nested rfl))
    fun _ => rfl

theorem Call.readsFields (name : String) (nested : Bool) :
    ReadsFields Form.callFields (Call.read name nested) :=
  .intro rfl (.seq (.seq (.seq (.map _ (.required .expression nested rfl))
    (.optional (.list .expression) nested rfl)) (.optional (.node .hash) nested rfl))
    (.optional .span nested rfl)) fun _ => rfl

theorem Attribute.readsFields (nested : Bool) :
    ReadsFields NodeForm.attr.fields (Attribute.read nested) :=
  .intro rfl (.seq (.seq (.map _ (.required .text nested rfl))
    (.required (.tagged .attributeValue) nested rfl)) (.optional .span nested rfl)) fun _ => rfl

theorem Block.readsFields (nested : Bool) : ReadsFields NodeForm.block.fields (Block.read nested) :=
  .intro rfl (.seq (.map _ (.optional (.list .statement) nested rfl)) (.optional .span nested rfl))
    fun _ => rfl

theorem Template.readsFields : ReadsFields NodeForm.template.fields Template.read :=
  .intro rfl (.seq (.map _ (.optional (.list .statement) false rfl)) (.optional .span false rfl))
    fun _ => rfl

theorem NodeForm.readsFields (n : NodeForm) (nested : Bool) : ReadsFields n.fields (n.read nested) := by
  cases n with
  | position => exact Position.readsFields nested
  | span => exact Span.readsFields nested
  | pair => exact Pair.readsFields nested
  | hash => exact Hash.readsFields nested
  | modifier => exact Call.readsFields _ nested
  | attr => exact Attribute.readsFields nested
  | block => exact Block.readsFields nested
  | template => exact Template.readsFields

theorem Element.readsFields (nested : Bool) :
    ReadsFields [("tag", .text), ("attributes", .list (.node .attr)),
      ("modifiers", .list (.node .modifier)), ("children", .list .statement), ("loc", .span)]
      (Element.read nested) :=
  .intro rfl (.seq (.seq (.seq (.seq (.map _ (.required .text nested rfl))
    (.optional (.list (.node .attr)) nested rfl))
    (.optional (.list (.node .modifier)) nested rfl)) (.optional (.list .statement) nested rfl))
    (.optional .span nested rfl)) fun _ => rfl

theorem BlockStatement.readsFields (nested : Bool) :
    ReadsFields [("path", .expression), ("params", .list .expression), ("hash", .node .hash),
      ("program", .node .block), ("inverse", .optional (.node .block)), ("loc", .span)]
      (BlockStatement.read nested) :=
  .intro rfl (.seq (.seq (.seq (.seq (.seq (.map _ (.required .expression nested rfl))
    (.optional (.list .expression) nested rfl)) (.optional (.node .hash) nested rfl))
    (.optional (.node .block) nested rfl)) (.optional (.optional (.node .block)) nested rfl))
    (.optional .span nested rfl)) fun _ => rfl

/-! ### Nodes are read by their kind -/

namespace TaggedForm

/-- The name of the nodes in messages. -/
def name : TaggedForm → String
  | expression => "Expression"
  | attributeValue => "AttrValue"
  | statement => "Statement"

/-- Reads the fields of a kind. -/
def readAs : (t : TaggedForm) → String → Reader t.Value
  | expression => Expression.readAs (Expression.read true)
  | attributeValue => AttributeValue.readAs (AttributeValue.read true)
  | statement => Statement.readAs (Statement.read true)

/-- A node of no known kind. -/
def unknown : (t : TaggedForm) → t.Value
  | expression => .unknown
  | attributeValue => .unknown
  | statement => .unknown

theorem read_eq (t : TaggedForm) (nested : Bool) (j : Json) :
    t.read nested j = Json.readTagged t.name t.kinds nested j >>= fun node =>
      t.readAs node.1 node.2 := by
  cases t with
  | expression => exact Expression.read_eq nested j
  | attributeValue => exact AttributeValue.read_eq nested j
  | statement => exact Statement.read_eq nested j

theorem readsFields (t : TaggedForm) {kind : String} {fields : List (String × Form)}
    (h : (kind, fields) ∈ t.known) : ReadsFields fields (t.readAs kind) := by
  cases t with
  | expression =>
    simp only [known, List.mem_cons, List.not_mem_nil, or_false, Prod.mk.injEq] at h
    rcases h with ⟨rfl, rfl⟩ | ⟨rfl, rfl⟩ | ⟨rfl, rfl⟩ | ⟨rfl, rfl⟩ | ⟨rfl, rfl⟩ | ⟨rfl, rfl⟩ | ⟨rfl, rfl⟩
    · exact .intro rfl (.seq (.map _ (.required .text true rfl)) (.optional .span true rfl)) fun _ => rfl
    · exact (Call.readsFields _ true).map Expression.sub
    · exact .intro rfl (.seq (.map _ (.required .text true rfl)) (.optional .span true rfl)) fun _ => rfl
    all_goals
      exact .intro rfl (.seq (.map _ (.optional .payload true rfl)) (.optional .span true rfl))
        fun _ => rfl
  | attributeValue =>
    simp only [known, List.mem_cons, List.not_mem_nil, or_false, Prod.mk.injEq] at h
    rcases h with ⟨rfl, rfl⟩ | ⟨rfl, rfl⟩ | ⟨rfl, rfl⟩
    · exact .intro rfl (.seq (.map _ (.optional .text true rfl)) (.optional .span true rfl)) fun _ => rfl
    · exact (Call.readsFields _ true).map AttributeValue.mustache
    · exact .intro rfl (.seq (.map _ (.optional (.list (.tagged .attributeValue)) true rfl))
        (.optional .span true rfl)) fun _ => rfl
  | statement =>
    simp only [known, List.mem_cons, List.not_mem_nil, or_false, Prod.mk.injEq] at h
    rcases h with ⟨rfl, rfl⟩ | ⟨rfl, rfl⟩ | ⟨rfl, rfl⟩ | ⟨rfl, rfl⟩ | ⟨rfl, rfl⟩ | ⟨rfl, rfl⟩
    · exact (Element.readsFields true).map Statement.element
    · exact (Call.readsFields _ true).map Statement.mustache
    · exact (BlockStatement.readsFields true).map Statement.block
    all_goals
      exact .intro rfl (.seq (.map _ (.optional .text true rfl)) (.optional .span true rfl)) fun _ => rfl

theorem readAs_unknown (t : TaggedForm) {kind : String} (h : kind ∉ t.known.map (·.1)) :
    t.readAs kind = Json.readUnknown t.unknown := by
  cases t with
  | expression =>
    funext fields
    show Expression.readAs (Expression.read true) kind fields = _
    unfold Expression.readAs
    split
    iterate 7 exact absurd (by decide) h
    rfl
  | attributeValue =>
    funext fields
    show AttributeValue.readAs (AttributeValue.read true) kind fields = _
    unfold AttributeValue.readAs
    split
    iterate 3 exact absurd (by decide) h
    rfl
  | statement =>
    funext fields
    show Statement.readAs (Statement.read true) kind fields = _
    unfold Statement.readAs
    split
    iterate 6 exact absurd (by decide) h
    rfl

end TaggedForm

theorem readTagged_object_eq_ok_iff {name : String} {kinds : List String} {nested : Bool}
    {ms : List (String × Json)} {node : String × Json} :
    Json.readTagged name kinds nested (.object ms) = .ok node ↔
      ∃ tag kind, ms.lookup "type" = some tag ∧ Json.readKind kinds nested tag = .ok kind ∧
        node = (kind, .object (ms.filter (·.1 ≠ "type"))) := by
  constructor
  · intro h
    rw [Json.readTagged] at h
    split at h
    · cases h
    · obtain ⟨kind, hkind, heq⟩ := Except.bind_eq_ok_iff.mp h
      cases heq
      exact ⟨_, kind, ‹_›, hkind, rfl⟩
  · rintro ⟨tag, kind, htag, hkind, rfl⟩
    rw [Json.readTagged, htag]
    exact Except.bind_eq_ok_iff.mpr ⟨kind, hkind, rfl⟩

theorem readTagged_array_eq_ok_iff {name : String} {kinds : List String} {nested : Bool}
    {tag : Json} {items : List Json} {node : String × Json} :
    Json.readTagged name kinds nested (.array (tag :: items)) = .ok node ↔
      ∃ kind, Json.readKind kinds nested tag = .ok kind ∧ node = (kind, .array items) := by
  constructor
  · intro h
    obtain ⟨kind, hkind, heq⟩ := Except.bind_eq_ok_iff.mp h
    cases heq
    exact ⟨kind, hkind, rfl⟩
  · rintro ⟨kind, hkind, rfl⟩
    exact Except.bind_eq_ok_iff.mpr ⟨kind, hkind, rfl⟩

/-- What names a kind at the root of a value names it everywhere. -/
theorem readKind_nested {kinds : List String} {nested : Bool} {tag : Json} {kind : String}
    (h : Json.readKind kinds nested tag = .ok kind) : Json.readKind kinds true tag = .ok kind := by
  cases nested with
  | true => exact h
  | false =>
    cases tag with
    | string => exact h
    | number n => cases n <;> simp [Json.readKind] at h
    | null | bool | array | object => cases h

namespace TaggedForm

variable {t : TaggedForm}

theorem fields?_eq {nested : Bool} {tag : Json} {kind : String}
    (h : Json.readKind t.kinds nested tag = .ok kind) : t.fields? tag = t.known.lookup kind := by
  rw [fields?, readKind_nested h]

theorem exists_known_of_fields? {tag : Json} {fields : List (String × Form)}
    (h : t.fields? tag = some fields) : ∃ kind, t.known.lookup kind = some fields := by
  rw [fields?] at h
  split at h
  · exact ⟨_, h⟩
  · cases h

theorem not_mem_known {kind : String} (h : t.known.lookup kind = none) : kind ∉ t.known.map (·.1) := by
  rw [List.lookup_eq_none_iff] at h
  intro hmem
  obtain ⟨x, hx, rfl⟩ := List.mem_map.mp hmem
  simpa using h x hx

/-- No kind declares the member that names it. -/
theorem ne_type_of_lookup {kind key : String} {fields : List (String × Form)} {g : Form}
    (hkind : t.known.lookup kind = some fields) (hkey : fields.lookup key = some g) : key ≠ "type" := by
  have hnone : ∀ x ∈ t.known, x.2.lookup "type" = none := by
    cases t <;> decide
  rintro rfl
  cases (hnone _ (List.mem_of_lookup hkind)).symm.trans hkey

end TaggedForm

end TemplateLint
