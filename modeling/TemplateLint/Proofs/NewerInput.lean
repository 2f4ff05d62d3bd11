import TemplateLint.Lint.Engine
import TemplateLint.Proofs.Schema

/-!
# Trees of newer writers

A writer of templates may come to say more than is read here: further members of a node, another order of
members, nodes of kinds that did not exist. `Newer` is the relation of a value to what such a writer may
write in its place. What counts as a further member depends on the place in the tree, so the relation goes
by the `Form` of the place.

* `keeps_object`, `keeps_array`: what one change does to an object or an array.
* `Newer.keeps`: by induction over `Newer`, what is read from a value is read from the newer one.
* `Template.read_newer`: the same for templates, and so for the walk and the diagnostics.
-/

namespace TemplateLint

open Json (Reader)

/-! ### Newer values -/

namespace Form

/-- The members that count in an object at a place, if the place is one of a node. -/
def members? (ms : List (String × Json)) : Form → Option (List (String × Form))
  | node n => some n.fields
  | tagged t => some (("type", payload) :: ((ms.lookup "type").bind t.fields?).getD [])
  | _ => none

/-- What is expected of the items of an array at a place, the first ones first. -/
def items (js : List Json) : Form → List Form
  | list f => js.map fun _ => f
  | node n => n.fields.map (·.2)
  | tagged t => payload :: ((js.head?.bind t.fields?).getD []).map (·.2)
  | _ => []

end Form

/-- A newer writer may write the second value at a place where the first one stood. -/
inductive Newer : Form → Json → Json → Prop
  | refl (f : Form) (j : Json) : Newer f j j
  | trans {f : Form} {i j k : Json} : Newer f i j → Newer f j k → Newer f i k
  -- members that do not count are put in, taken out or changed
  | further {f : Form} {ms ms' : List (String × Json)} {fields : List (String × Form)} :
      f.members? ms = some fields →
      ms.filter (·.1 ∈ fields.map (·.1)) = ms'.filter (·.1 ∈ fields.map (·.1)) →
      Newer f (.object ms) (.object ms')
  -- the members of a node come in another order; an object has every key once
  | reorder {f : Form} {ms ms' : List (String × Json)} :
      (f.members? ms).isSome → (ms.map (·.1)).Nodup → ms.Perm ms' → Newer f (.object ms) (.object ms')
  -- a node of no known kind is of another one, with other members
  | unknown {t : TaggedForm} {ms ms' : List (String × Json)} {kind kind' : String} :
      ms.lookup "type" = some (.string kind) → kind ∉ t.known.map (·.1) →
      ms'.lookup "type" = some (.string kind') → kind' ∉ t.known.map (·.1) →
      Newer (.tagged t) (.object ms) (.object ms')
  -- all this may be done in a member that counts,
  | member {f g : Form} {before after : List (String × Json)} {key : String} {j j' : Json}
      {fields : List (String × Form)} :
      f.members? (before ++ (key, j) :: after) = some fields → fields.lookup key = some g →
      Newer g j j' →
      Newer f (.object (before ++ (key, j) :: after)) (.object (before ++ (key, j') :: after))
  -- in an item of a list, or of an array that stands for a node,
  | item {f g : Form} {before after : List Json} {j j' : Json} :
      (f.items (before ++ j :: after))[before.length]? = some g → Newer g j j' →
      Newer f (.array (before ++ j :: after)) (.array (before ++ j' :: after))
  -- and in a body that may be missing
  | optional {f : Form} {j j' : Json} : Newer f j j' → Newer (.optional f) j j'

/-! ### What is read stays the same -/

theorem keeps_tagged_object {t : TaggedForm} {ms ms' : List (String × Json)}
    (htype : ms.lookup "type" = ms'.lookup "type")
    (hrel : ∀ tag fields, ms.lookup "type" = some tag → t.fields? tag = some fields →
      ∀ key g, fields.lookup key = some g →
        Option.Rel (Keeps g) (ms.lookup key) (ms'.lookup key))
    {nested : Bool} {a : t.Value} (ha : t.read nested (.object ms) = .ok a) :
    t.read nested (.object ms') = .ok a := by
  rw [t.read_eq, Except.bind_eq_ok_iff] at ha ⊢
  obtain ⟨node, hnode, ha⟩ := ha
  obtain ⟨tag, kind, htag, hkind, rfl⟩ := readTagged_object_eq_ok_iff.mp hnode
  refine ⟨_, readTagged_object_eq_ok_iff.mpr ⟨tag, kind, htype ▸ htag, hkind, rfl⟩, ?_⟩
  have hfields := TaggedForm.fields?_eq hkind
  cases hknown : t.known.lookup kind with
  | none =>
    rw [t.readAs_unknown (TaggedForm.not_mem_known hknown)] at ha ⊢
    exact ha
  | some fields =>
    refine (t.readsFields (List.mem_of_lookup hknown)).object ?_ ha
    intro key g hkey
    have hne : decide (key ≠ "type") = true :=
      decide_eq_true (TaggedForm.ne_type_of_lookup hknown hkey)
    rw [List.lookup_filter_key (p := (decide <| · ≠ "type")) hne,
      List.lookup_filter_key (p := (decide <| · ≠ "type")) hne]
    exact hrel tag fields htag (hfields.trans hknown) key g hkey

theorem keeps_object {f : Form} {ms ms' : List (String × Json)} {fields : List (String × Form)}
    (hfields : f.members? ms = some fields)
    (hrel : ∀ key g, fields.lookup key = some g →
      Option.Rel (Keeps g) (ms.lookup key) (ms'.lookup key)) :
    Keeps f (.object ms) (.object ms') := by
  refine ⟨by simp, fun nested a ha => ?_⟩
  cases f with
  | node n =>
    cases hfields
    exact (n.readsFields nested).object hrel ha
  | tagged t =>
    cases hfields
    have htype : ms.lookup "type" = ms'.lookup "type" :=
      Keeps.eq_of_optionRel_payload (hrel _ _ List.lookup_cons_self)
    refine keeps_tagged_object htype (fun tag fields htag hfields key g hkey => hrel key g ?_) ha
    obtain ⟨kind, hkind⟩ := TaggedForm.exists_known_of_fields? hfields
    have hne := TaggedForm.ne_type_of_lookup hkind hkey
    rw [htag, List.lookup_cons, beq_eq_false_iff_ne.mpr hne]
    simpa [hfields] using hkey
  | text | word | payload | list | optional => cases hfields

/-- In a list, only what is read from the items counts. -/
theorem readList_replace {α : Type} {read : Reader α} {before after : List Json} {j j' : Json}
    (h : ∀ a, read j = .ok a → read j' = .ok a) {as : List α}
    (has : Json.readList read (.array (before ++ j :: after)) = .ok as) :
    Json.readList read (.array (before ++ j' :: after)) = .ok as := by
  rw [Json.readList, List.mapM_append, List.mapM_cons] at has ⊢
  simp only [Except.bind_eq_ok_iff] at has ⊢
  obtain ⟨as₁, h₁, as₂, ⟨a, ha, hrest⟩, heq⟩ := has
  exact ⟨as₁, h₁, as₂, ⟨a, h a ha, hrest⟩, heq⟩

theorem keeps_array {f g : Form} {before after : List Json} {j j' : Json}
    (hslot : (f.items (before ++ j :: after))[before.length]? = some g) (hkeeps : Keeps g j j') :
    Keeps f (.array (before ++ j :: after)) (.array (before ++ j' :: after)) := by
  refine ⟨by simp, fun nested a ha => ?_⟩
  cases f with
  | list f =>
    have hg : g = f := by
      simpa [Form.items] using hslot.symm
    subst hg
    exact readList_replace (hkeeps.2 nested) ha
  | node n => exact (n.readsFields nested).array hslot hkeeps ha
  | tagged t =>
    cases before with
    | nil =>
      -- the tag itself
      cases hslot
      obtain rfl := Keeps.eq_of_payload hkeeps
      exact ha
    | cons tag before =>
      show t.read nested (.array (tag :: (before ++ j' :: after))) = .ok a
      rw [Form.read, t.read_eq, Except.bind_eq_ok_iff] at ha
      rw [t.read_eq, Except.bind_eq_ok_iff]
      obtain ⟨node, hnode, ha⟩ := ha
      obtain ⟨kind, hkind, rfl⟩ := readTagged_array_eq_ok_iff.mp hnode
      refine ⟨_, readTagged_array_eq_ok_iff.mpr ⟨kind, hkind, rfl⟩, ?_⟩
      have hfields := TaggedForm.fields?_eq hkind
      cases hknown : t.known.lookup kind with
      | none => simp [Form.items, hfields, hknown] at hslot
      | some fields =>
        refine (t.readsFields (List.mem_of_lookup hknown)).array ?_ hkeeps ha
        simpa [Form.items, hfields, hknown] using hslot
  | text | word | payload | optional => cases hslot

theorem lookup_replace_rel {before after : List (String × Json)} {key k : String} {j j' : Json} {f g : Form}
    (hg : key = k → f = g) (hkeeps : Keeps g j j') :
    Option.Rel (Keeps f) ((before ++ (k, j) :: after).lookup key)
      ((before ++ (k, j') :: after).lookup key) := by
  rw [List.lookup_append, List.lookup_append, List.lookup_cons, List.lookup_cons]
  cases before.lookup key with
  | some i => exact Keeps.optionRel_refl _ _
  | none =>
    by_cases hkey : key = k
    · subst hkey
      obtain rfl := hg rfl
      simpa using Option.Rel.some hkeeps
    · rw [beq_eq_false_iff_ne.mpr hkey]
      exact Keeps.optionRel_refl _ _

theorem keeps_unknown {t : TaggedForm} {ms ms' : List (String × Json)} {kind kind' : String}
    (htype : ms.lookup "type" = some (.string kind)) (hkind : kind ∉ t.known.map (·.1))
    (htype' : ms'.lookup "type" = some (.string kind')) (hkind' : kind' ∉ t.known.map (·.1)) :
    Keeps (.tagged t) (.object ms) (.object ms') := by
  have hread : ∀ {ms kind}, ms.lookup "type" = some (.string kind) → kind ∉ t.known.map (·.1) →
      ∀ nested, t.read nested (.object ms) = .ok t.unknown := by
    intro ms kind htype hkind nested
    rw [t.read_eq, Json.readTagged_object htype]
    show t.readAs kind _ = .ok t.unknown
    rw [t.readAs_unknown hkind, Json.readUnknown]
    nofun
  refine ⟨by simp, fun nested a ha => ?_⟩
  exact (hread htype' hkind' nested).trans ((hread htype hkind nested).symm.trans ha)

theorem readOptional_eq_ok_iff {α : Type} {read : Reader α} {j : Json} (hj : j ≠ .null) {a : Option α} :
    Json.readOptional read j = .ok a ↔ ∃ b, read j = .ok b ∧ some b = a := by
  rw [Json.readOptional]
  · cases read j <;> simp [Except.map]
  · exact hj

theorem keeps_optional {f : Form} {j j' : Json} (h : Keeps f j j') : Keeps (.optional f) j j' := by
  refine ⟨h.1, fun nested a ha => ?_⟩
  by_cases hj : j = .null
  · obtain rfl := h.1.mp hj
    subst hj
    exact ha
  · obtain ⟨b, hb, rfl⟩ := (readOptional_eq_ok_iff hj).mp ha
    exact (readOptional_eq_ok_iff (mt h.1.mpr hj)).mpr ⟨b, h.2 nested b hb, rfl⟩

theorem Newer.keeps {f : Form} {j j' : Json} (h : Newer f j j') : Keeps f j j' := by
  induction h with
  | refl f j => exact .refl f j
  | trans _ _ ih ih' => exact ⟨ih.1.trans ih'.1, fun nested a ha => ih'.2 nested a (ih.2 nested a ha)⟩
  | @further f ms ms' fields hfields hsame =>
    refine keeps_object hfields fun key g hkey => ?_
    -- the search for a field does not see the members that were left out
    have hmem : decide (key ∈ fields.map (·.1)) = true :=
      decide_eq_true (List.mem_map_of_mem (List.mem_of_lookup hkey))
    have hlookup := congrArg (List.lookup key) hsame
    rw [List.lookup_filter_key (p := (decide <| · ∈ fields.map (·.1))) hmem,
      List.lookup_filter_key (p := (decide <| · ∈ fields.map (·.1))) hmem] at hlookup
    rw [hlookup]
    exact Keeps.optionRel_refl g _
  | reorder hnode hnodup hperm =>
    obtain ⟨fields, hfields⟩ := Option.isSome_iff_exists.mp hnode
    refine keeps_object hfields fun key g _ => ?_
    rw [List.lookup_perm hperm hnodup key]
    exact Keeps.optionRel_refl g _
  | unknown htype hkind htype' hkind' => exact keeps_unknown htype hkind htype' hkind'
  | member hfields hkey _ ih =>
    refine keeps_object hfields fun key g hkey' => lookup_replace_rel ?_ ih
    rintro rfl
    exact Option.some.inj (hkey'.symm.trans hkey)
  | item hslot _ ih => exact keeps_array hslot ih
  | optional _ ih => exact keeps_optional ih

/-- **What a newer writer adds is not seen.** -/
theorem Template.read_newer {v v' : Json} {t : Template} (h : Newer (.node .template) v v')
    (hv : Template.read v = .ok t) :
    Template.read v' = .ok t ∧
    (Template.read v').map Template.occurrences = (Template.read v).map Template.occurrences ∧
    ∀ (e : Engine) (source : Source) (file : String),
      (Template.read v').map (e.lintTemplate · source file) =
        (Template.read v).map (e.lintTemplate · source file) := by
  have hv' : Template.read v' = .ok t := h.keeps.2 false t hv
  refine ⟨hv', ?_, fun e source file => ?_⟩
  · rw [hv', hv]
  · rw [hv', hv]

/-- An element with a child of a kind that is not known. -/
def olderPage : Json :=
  .object [("body", .array [.object [("type", .string "ElementNode"), ("tag", .string "div"),
    ("children", .array [.object [("type", .string "Partial")]])]])]

/-- The same page with further members, another order of members and another kind of the child. -/
def newerPage : Json :=
  .object [("blockParams", .array []), ("body", .array [.object [("tag", .string "div"),
    ("selfClosing", .bool false), ("children", .array [.object [("name", .string "x"),
      ("type", .string "TemplateTag")]]), ("type", .string "ElementNode")]])]

theorem newer_newerPage : Newer (.node .template) olderPage newerPage := by
  have hchild : Newer .statement (.object [("type", .string "Partial")])
      (.object [("name", .string "x"), ("type", .string "TemplateTag")]) :=
    .unknown rfl (by decide) rfl (by decide)
  have hchildren : Newer (.list .statement) (.array [.object [("type", .string "Partial")]])
      (.array [.object [("name", .string "x"), ("type", .string "TemplateTag")]]) :=
    @Newer.item _ _ [] [] _ _ rfl hchild
  have helement := @Newer.member .statement _ [("type", .string "ElementNode"), ("tag", .string "div")]
    [] "children" _ _ _ rfl rfl hchildren
  have horder := helement.trans (.reorder rfl (by decide) (@List.perm_append_comm (String × Json)
    [("type", .string "ElementNode")] [("tag", .string "div"), ("children", _)]))
  have hfurther : Newer .statement _ (.object [("tag", .string "div"), ("selfClosing", .bool false),
      ("children", _), ("type", .string "ElementNode")]) := horder.trans (.further rfl rfl)
  have hbody := @Newer.item (.list .statement) _ [] [] _ _ rfl hfurther
  exact (@Newer.member (.node .template) _ [] [] "body" _ _ _ rfl rfl hbody).trans (.further rfl rfl)

theorem read_newer_newerPage :
    Newer (.node .template) olderPage newerPage ∧
    Template.read olderPage = .ok ⟨[.element ⟨"div", [], [], [.unknown], {}⟩], {}⟩ ∧
    (Template.read newerPage = .ok ⟨[.element ⟨"div", [], [], [.unknown], {}⟩], {}⟩ ∧
    (Template.read newerPage).map Template.occurrences =
      (Template.read olderPage).map Template.occurrences ∧
    ∀ (e : Engine) (source : Source) (file : String),
      (Template.read newerPage).map (e.lintTemplate · source file) =
        (Template.read olderPage).map (e.lintTemplate · source file)) :=
  ⟨newer_newerPage, rfl, Template.read_newer newer_newerPage rfl⟩

end TemplateLint
