import TemplateLint.Json.Record
import TemplateLint.Proofs.ListLemmas

/-!
# When a reader accepts

The readers of structures collect what they read field by field, together with all faults. Here it is
said once for each of their parts when it succeeds, and with which result. A reader of a structure then
comes apart into its fields by rewriting with these equivalences.

* `Fields.map_eq_done_iff`, `Fields.seq_eq_done_iff`: several fields.
* `Record.required_eq_done_iff`, `Record.optional_eq_done_iff`: one field.
* `Record.conclude_eq_ok_iff`: the whole structure.
* `readTagged_object`: a node that names its kind.
-/

namespace TemplateLint.Json

variable {α β : Type}

/-! ### Fields -/

namespace Fields

@[simp] theorem map_eq_done_iff {f : α → β} {x : Fields α} {b : β} :
    f <$> x = done b ↔ ∃ a, x = done a ∧ f a = b := by
  cases x <;> simp [Functor.map]

@[simp] theorem seq_eq_done_iff {f : Fields (α → β)} {x : Fields α} {b : β} :
    f <*> x = done b ↔ ∃ g a, f = done g ∧ x = done a ∧ g a = b := by
  cases f <;> cases x <;> simp [Seq.seq]

@[simp] theorem ofExcept_eq_done_iff {key : String} {x : Except Mismatch α} {a : α} :
    ofExcept key x = done a ↔ x = .ok a := by
  cases x <;> simp [ofExcept]

end Fields

@[simp] theorem Declaration.fields_mk (name : String) (required optional : List String) :
    (Declaration.mk name required optional).fields = required ++ optional := rfl

namespace Record

variable {r : Record} {key : String} {read : Reader α} {a : α}

@[simp] theorem required_eq_done_iff :
    r.required key read = .done a ↔ ∃ j, r.present.lookup key = some j ∧ read j = .ok a := by
  unfold required
  cases r.present.lookup key <;> simp

@[simp] theorem optional_eq_done_iff {default : α} :
    r.optional key read default = .done a ↔
      (∃ j, r.present.lookup key = some j ∧ read j = .ok a) ∨
        r.present.lookup key = none ∧ default = a := by
  unfold optional
  cases r.present.lookup key <;> simp

@[simp] theorem conclude_eq_ok_iff {fs : Fields α} :
    r.conclude fs = .ok a ↔ fs = .done a ∧ r.ending = none := by
  cases fs with
  | done b =>
    -- only an array of the wrong length is left to refuse
    rw [conclude]
    cases r.ending <;> simp
  | faulty first more =>
    rw [conclude]
    split <;> simp

/-- The fields of an object are those of its members that the structure declares. -/
@[simp] theorem find_object (d : Declaration) (nested : Bool) (ms : List (String × Json)) :
    find d nested (.object ms) = .ok ⟨ms.filter (·.1 ∈ d.fields), none⟩ := rfl

/-- Members that are no fields do not get in the way of those that are. -/
theorem lookup_filter_fields {d : Declaration} (h : key ∈ d.fields) (ms : List (String × Json)) :
    (ms.filter (·.1 ∈ d.fields)).lookup key = ms.lookup key :=
  List.lookup_filter_key (p := (decide <| · ∈ d.fields)) (decide_eq_true h) ms

end Record

/-! ### Lists and numbers -/

theorem readList_map {read : Reader α} {write : α → Json} {as : List α}
    (h : ∀ a ∈ as, read (write a) = .ok a) : readList read (.array (as.map write)) = .ok as := by
  rw [readList]
  induction as with
  | nil => rfl
  | cons a as ih =>
    rw [List.forall_mem_cons] at h
    rw [List.map_cons, List.mapM_cons, h.1, ih h.2]
    rfl

@[simp] theorem readWord_nat (w : UInt64) : readWord (.nat w.toNat) = .ok w := by
  simp [readWord, nat]

/-! ### Nodes of several kinds -/

/-- A node that names its kind is read as a node of this kind. -/
theorem readTagged_object {name kind : String} {kinds : List String} {nested : Bool}
    {ms : List (String × Json)} (h : ms.lookup "type" = some (.string kind)) :
    readTagged name kinds nested (.object ms) =
      .ok (kind, .object (ms.filter (·.1 ≠ "type"))) := by
  rw [readTagged, h]
  rfl

/-! ### Levels

Each node in a value is less deep than the value, so that a reader with one level less is enough for it. -/

theorem depth_le_depthItems {j : Json} {items : List Json} (h : j ∈ items) :
    j.depth ≤ depthItems items := by
  induction h with
  | head => exact Nat.le_max_left _ _
  | tail _ _ ih => exact Nat.le_trans ih (Nat.le_max_right _ _)

theorem depth_le_depthMembers {key : String} {j : Json} {ms : List (String × Json)}
    (h : (key, j) ∈ ms) : j.depth ≤ depthMembers ms := by
  induction ms with
  | nil => cases h
  | cons m ms ih =>
    obtain ⟨k, i⟩ := m
    rw [depthMembers]
    rcases List.mem_cons.mp h with heq | h
    · cases heq
      exact Nat.le_max_left _ _
    · exact Nat.le_trans (ih h) (Nat.le_max_right _ _)

theorem depth_lt_array {j : Json} {items : List Json} (h : j ∈ items) :
    j.depth < (Json.array items).depth := by
  rw [depth]
  exact Nat.lt_succ_of_le (depth_le_depthItems h)

theorem depth_lt_object (key : String) {j : Json} {ms : List (String × Json)} (h : (key, j) ∈ ms) :
    j.depth < (Json.object ms).depth := by
  rw [depth]
  exact Nat.lt_succ_of_le (depth_le_depthMembers h)

theorem depth_item_lt_object (key : String) {write : α → Json} {a : α} {as : List α}
    {ms : List (String × Json)} (ha : a ∈ as) (h : (key, .array (as.map write)) ∈ ms) :
    (write a).depth < (Json.object ms).depth :=
  calc (write a).depth
    _ < (Json.array (as.map write)).depth := depth_lt_array (List.mem_map_of_mem ha)
    _ < (Json.object ms).depth := depth_lt_object key h

end TemplateLint.Json
