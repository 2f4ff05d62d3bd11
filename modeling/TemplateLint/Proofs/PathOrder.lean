import TemplateLint.Files.Collect

/-!
# The order of paths

Paths are ordered by their components, and this order is total and lawful: two paths are the same
exactly when their components are. So `Path.sortUnique` lists every path of a list once, in strictly
increasing order.
-/

namespace TemplateLint

/-- Components of one kind differ by their names only. -/
theorem Component.key_injective {a b : Component} (h : a.key = b.key) : a = b := by
  cases a <;> cases b <;> simp_all [Component.key]

instance : Std.TransOrd Component :=
  inferInstanceAs (Std.TransCmp (compareLex (compareOn fun c : Component => c.key.1)
    (compareOn fun c : Component => c.key.2)))

instance : Std.LawfulEqOrd Component where
  eq_of_compare {a b} h := by
    have hkeys : compare a.key.1 b.key.1 = .eq ∧ compare a.key.2 b.key.2 = .eq :=
      Ordering.then_eq_eq.mp h
    exact Component.key_injective (Prod.ext (Std.LawfulEqOrd.eq_of_compare hkeys.1)
      (Std.LawfulEqOrd.eq_of_compare hkeys.2))

namespace Path

instance : Std.TransCmp order := inferInstanceAs (Std.TransCmp (compareOn components))

/-- Paths that the order does not tell apart have the same components, though perhaps not the same text. -/
theorem order_eq_iff {p q : String} : order p q = .eq ↔ components p = components q :=
  Std.LawfulEqOrd.compare_eq_iff_eq

theorem same_iff {p q : String} : same p q ↔ components p = components q := by
  rw [same, beq_iff_eq, order_eq_iff]

theorem same_refl (p : String) : same p p := same_iff.mpr rfl

theorem same_symm {p q : String} (h : same p q) : same q p := same_iff.mpr (same_iff.mp h).symm

theorem same_trans {p q r : String} (h : same p q) (h' : same q r) : same p r :=
  same_iff.mpr ((same_iff.mp h).trans (same_iff.mp h'))

/-! ### Neighbours that are the same -/

/-- No path is made up, and the spelling that is left is one of the list. -/
theorem mem_of_mem_dedup {p : String} {ps : List String} (h : p ∈ dedup ps) : p ∈ ps := by
  fun_induction dedup ps with
  | case1 q r ps hsame ih =>
    rcases List.mem_cons.mp (ih h) with rfl | hmem
    · exact List.mem_cons_self
    · exact List.mem_cons_of_mem _ (List.mem_cons_of_mem _ hmem)
  | case2 q r ps hsame ih =>
    rcases List.mem_cons.mp h with rfl | hmem
    · exact List.mem_cons_self
    · exact List.mem_cons_of_mem _ (ih hmem)
  | case3 ps => exact h

/-- Of the spellings of a path one is left. -/
theorem exists_same_of_mem {p : String} {ps : List String} (h : p ∈ ps) :
    ∃ q ∈ dedup ps, components q = components p := by
  fun_induction dedup ps generalizing p with
  | case1 q r ps hsame ih =>
    rcases List.mem_cons.mp h with rfl | hmem
    · exact ih List.mem_cons_self
    rcases List.mem_cons.mp hmem with rfl | hmem
    · obtain ⟨s, hs, heq⟩ := ih List.mem_cons_self
      exact ⟨s, hs, heq.trans (same_iff.mp hsame)⟩
    · exact ih (List.mem_cons_of_mem _ hmem)
  | case2 q r ps hsame ih =>
    rcases List.mem_cons.mp h with rfl | hmem
    · exact ⟨p, List.mem_cons_self, rfl⟩
    · obtain ⟨s, hs, heq⟩ := ih hmem
      exact ⟨s, List.mem_cons_of_mem _ hs, heq⟩
  | case3 ps => exact ⟨p, h, rfl⟩

/-- In a sorted list the spellings of a path are neighbours, so afterwards no two paths are the same. -/
theorem pairwise_dedup {ps : List String} (h : ps.Pairwise fun p q => (order p q).isLE) :
    (dedup ps).Pairwise fun p q => order p q = .lt := by
  fun_induction dedup ps with
  | case1 p q ps hsame ih =>
    apply ih
    rw [List.pairwise_cons, List.pairwise_cons] at h
    exact List.pairwise_cons.mpr ⟨fun r hr => h.1 r (List.mem_cons_of_mem _ hr), h.2.2⟩
  | case2 p q ps hsame ih =>
    obtain ⟨hp, hrest⟩ := List.pairwise_cons.mp h
    refine List.pairwise_cons.mpr ⟨fun r hr => ?_, ih hrest⟩
    have hpq : order p q = .lt := by
      have hle := hp q List.mem_cons_self
      have hne : order p q ≠ .eq := fun heq => hsame (by rw [same, heq]; rfl)
      cases hord : order p q <;> simp_all
    -- The rest starts with `q` and does not fall below it.
    rcases List.mem_cons.mp (mem_of_mem_dedup hr) with rfl | hmem
    · exact hpq
    · exact Std.TransCmp.lt_of_lt_of_isLE hpq ((List.pairwise_cons.mp hrest).1 r hmem)
  | case3 ps hshort =>
    match ps with
    | [] => exact .nil
    | [p] => exact List.pairwise_singleton _ p
    | p :: q :: ps => exact absurd rfl (hshort p q ps)

/-! ### Sorting -/

theorem mem_of_mem_sortUnique {p : String} {ps : List String} (h : p ∈ sortUnique ps) : p ∈ ps :=
  List.mem_mergeSort.mp (mem_of_mem_dedup h)

/-- Every path of the list is there, perhaps in another spelling. -/
theorem exists_mem_sortUnique {p : String} {ps : List String} (h : p ∈ ps) :
    ∃ q ∈ sortUnique ps, components q = components p :=
  exists_same_of_mem (List.mem_mergeSort.mpr h)

/-- Sorted paths rise strictly. The order is total and transitive, which is what sorting needs. -/
theorem pairwise_sortUnique (ps : List String) :
    (sortUnique ps).Pairwise fun p q => order p q = .lt := by
  have hle {p q : String} : (order p q != .gt) = (order p q).isLE := by
    cases order p q <;> rfl
  have htrans (p q r : String) (hpq : order p q != .gt) (hqr : order q r != .gt) :
      order p r != .gt := by
    rw [hle] at hpq hqr ⊢
    exact Std.TransCmp.isLE_trans hpq hqr
  have htotal (p q : String) : (order p q != .gt || order q p != .gt) = true := by
    have hswap : order q p = (order p q).swap := Std.OrientedCmp.eq_swap
    rw [hswap]
    cases order p q <;> rfl
  exact pairwise_dedup ((List.pairwise_mergeSort htrans htotal ps).imp fun h => hle ▸ h)

end Path

end TemplateLint
