import Mathlib.Data.List.Basic
import TemplateLint.Proofs.ListLemmas

/-!
# Lists in the order of keys

A relation `P : κ → β → Prop` says which values belong to which keys. `Lists P l` says that `l` holds
**all values of `P`, each once, in the order of their keys**. So one statement about a list covers
soundness (every item has a key), completeness (every value of every key is an item), the order, and
that no item is lost or repeated.

* **Uniqueness** (`Lists.unique`): when no key stands before itself, at most one list does this.
* **Composition** (`Lists.append`, `Lists.flatMap`, `Lists.filterMap`): the operations from which
  walks and checks are built keep a list in the order of keys. A `flatMap` makes longer keys out of
  shorter ones.
-/

namespace TemplateLint

variable {κ μ ν β γ : Type}

/-- The entries are the pairs of the relation `P`, each once, in the order of their keys. -/
structure Enumerates [LT κ] (P : κ → β → Prop) (entries : List (κ × β)) : Prop where
  ordered : entries.Pairwise fun x y => x.1 < y.1
  mem_iff : ∀ k b, (k, b) ∈ entries ↔ P k b

/-- The list holds the values of the relation `P` in the order of their keys. -/
def Lists [LT κ] (P : κ → β → Prop) (l : List β) : Prop :=
  ∃ entries, Enumerates P entries ∧ entries.map Prod.snd = l

namespace Lists

variable [LT κ] [LT μ] [LT ν] {P Q : κ → β → Prop} {l m : List β}

/-! ### Uniqueness -/

/-- There is only one list of the values of a relation in the order of their keys. -/
theorem unique [Std.Asymm (α := κ) (· < ·)] (hl : Lists P l) (hm : Lists P m) : l = m := by
  obtain ⟨xs, hxs, rfl⟩ := hl
  obtain ⟨ys, hys, rfl⟩ := hm
  have hirrefl : ∀ x : κ × β, ¬ x.1 < x.1 := fun x h => Std.Asymm.asymm _ _ h h
  have hnodup : ∀ {zs : List (κ × β)}, Enumerates P zs → zs.Nodup := by
    intro zs h
    refine h.ordered.imp ?_
    rintro x _ hxx rfl
    exact hirrefl x hxx
  -- two enumerations have the same members, and only one arrangement of them is in order
  have hperm : xs.Perm ys :=
    (List.perm_ext_iff_of_nodup (hnodup hxs) (hnodup hys)).mpr fun ⟨k, b⟩ =>
      (hxs.mem_iff k b).trans (hys.mem_iff k b).symm
  have heq : xs = ys := hperm.eq_of_pairwise
    (fun _ _ _ _ hxy hyx => absurd hyx (Std.Asymm.asymm _ _ hxy)) hxs.ordered hys.ordered
  rw [heq]

theorem mem_iff (hl : Lists P l) {b : β} : b ∈ l ↔ ∃ k, P k b := by
  obtain ⟨xs, hxs, rfl⟩ := hl
  constructor
  · intro hb
    obtain ⟨⟨k, b⟩, hx, rfl⟩ := List.mem_map.mp hb
    exact ⟨k, (hxs.mem_iff k b).mp hx⟩
  · rintro ⟨k, hk⟩
    exact List.mem_map.mpr ⟨(k, b), (hxs.mem_iff k b).mpr hk, rfl⟩

/-! ### Composition -/

theorem congr (h : ∀ k b, P k b ↔ Q k b) (hl : Lists P l) : Lists Q l := by
  obtain ⟨xs, hxs, rfl⟩ := hl
  exact ⟨xs, ⟨hxs.ordered, fun k b => (hxs.mem_iff k b).trans (h k b)⟩, rfl⟩

theorem nil (h : ∀ k b, ¬ P k b) : Lists P [] :=
  ⟨[], ⟨.nil, fun k b => by simp [h k b]⟩, rfl⟩

theorem singleton (k : κ) (b : β) : Lists (fun k' b' => k' = k ∧ b' = b) [b] :=
  ⟨[(k, b)], ⟨List.pairwise_singleton _ _, fun k' b' => by simp⟩, rfl⟩

/-- Two lists follow each other when the keys of the first stand before those of the second. -/
theorem append (hl : Lists P l) (hm : Lists Q m)
    (hlt : ∀ k b k' b', P k b → Q k' b' → k < k') :
    Lists (fun k b => P k b ∨ Q k b) (l ++ m) := by
  obtain ⟨xs, hxs, rfl⟩ := hl
  obtain ⟨ys, hys, rfl⟩ := hm
  refine ⟨xs ++ ys, ⟨?_, ?_⟩, List.map_append⟩
  · rw [List.pairwise_append]
    refine ⟨hxs.ordered, hys.ordered, ?_⟩
    rintro ⟨k, b⟩ hx ⟨k', b'⟩ hy
    exact hlt k b k' b' ((hxs.mem_iff k b).mp hx) ((hys.mem_iff k' b').mp hy)
  · intro k b
    rw [List.mem_append, hxs.mem_iff, hys.mem_iff]

theorem filterMap (f : β → Option γ) (hl : Lists P l) :
    Lists (fun k c => ∃ b, P k b ∧ f b = some c) (l.filterMap f) := by
  obtain ⟨xs, hxs, rfl⟩ := hl
  refine ⟨xs.filterMap fun x => (f x.2).map (x.1, ·), ⟨?_, ?_⟩, ?_⟩
  · rw [List.pairwise_filterMap]
    refine hxs.ordered.imp ?_
    rintro ⟨k, b⟩ ⟨k', b'⟩ hlt x hx y hy
    obtain ⟨c, -, rfl⟩ := Option.map_eq_some_iff.mp hx
    obtain ⟨c', -, rfl⟩ := Option.map_eq_some_iff.mp hy
    exact hlt
  · intro k c
    rw [List.mem_filterMap]
    constructor
    · rintro ⟨⟨k', b⟩, hx, hc⟩
      obtain ⟨c', hc', heq⟩ := Option.map_eq_some_iff.mp hc
      cases heq
      exact ⟨b, (hxs.mem_iff _ b).mp hx, hc'⟩
    · rintro ⟨b, hb, hc⟩
      exact ⟨(k, b), (hxs.mem_iff k b).mpr hb, by rw [hc]; rfl⟩
  · rw [List.map_filterMap, List.filterMap_map]
    congr 1
    funext ⟨k, b⟩
    cases h : f b <;> simp [h]

theorem filter (p : β → Bool) (hl : Lists P l) :
    Lists (fun k b => P k b ∧ p b) (l.filter p) := by
  rw [← List.filterMap_eq_filter]
  refine (hl.filterMap _).congr fun k b => ?_
  simp [Option.guard_eq_some_iff]

theorem map (f : β → γ) (hl : Lists P l) :
    Lists (fun k c => ∃ b, P k b ∧ f b = c) (l.map f) := by
  rw [← List.filterMap_eq_map]
  refine (hl.filterMap _).congr fun k c => ?_
  simp

/-- A list stays in order under other keys in the same order. -/
theorem mapKeys (g : κ → ν) (hg : ∀ k k', k < k' → g k < g k') (hl : Lists P l) :
    Lists (fun n b => ∃ k, P k b ∧ n = g k) l := by
  obtain ⟨xs, hxs, rfl⟩ := hl
  refine ⟨xs.map fun x => (g x.1, x.2), ⟨?_, ?_⟩, ?_⟩
  · rw [List.pairwise_map]
    exact hxs.ordered.imp (hg _ _)
  · intro n b
    rw [List.mem_map]
    constructor
    · rintro ⟨⟨k, b⟩, hx, heq⟩
      cases heq
      exact ⟨k, (hxs.mem_iff k b).mp hx, rfl⟩
    · rintro ⟨k, hb, rfl⟩
      exact ⟨(k, b), (hxs.mem_iff k b).mpr hb, rfl⟩
  · rw [List.map_map]
    rfl

/-- The values that items of a list stand for follow each other like the items, when the key of a
value is made by `join` from the key of its item and the key that it has within the item. -/
theorem flatMap {Q : κ → β → μ → γ → Prop} {f : β → List γ} (join : κ → μ → ν)
    (houter : ∀ k k' m m', k < k' → join k m < join k' m')
    (hinner : ∀ k m m', m < m' → join k m < join k m')
    (hl : Lists P l) (hf : ∀ k b, P k b → Lists (Q k b) (f b)) :
    Lists (fun n c => ∃ k b m, P k b ∧ Q k b m c ∧ n = join k m) (l.flatMap f) := by
  obtain ⟨xs, hxs, rfl⟩ := hl
  -- an enumeration for every entry; for other pairs it does not matter which one
  have hf' : ∀ x : κ × β, ∃ ys, x ∈ xs →
      Enumerates (Q x.1 x.2) ys ∧ ys.map Prod.snd = f x.2 := by
    intro ⟨k, b⟩
    by_cases hx : (k, b) ∈ xs
    · obtain ⟨ys, hys⟩ := hf k b ((hxs.mem_iff k b).mp hx)
      exact ⟨ys, fun _ => hys⟩
    · exact ⟨[], fun h => absurd h hx⟩
  choose inner hin using hf'
  refine ⟨xs.flatMap fun x => (inner x).map fun y => (join x.1 y.1, y.2), ⟨?_, ?_⟩, ?_⟩
  · rw [List.pairwise_flatMap]
    constructor
    · intro x hx
      rw [List.pairwise_map]
      exact (hin x hx).1.ordered.imp (hinner _ _ _)
    · refine hxs.ordered.imp ?_
      intro x x' hlt y hy y' hy'
      obtain ⟨z, -, rfl⟩ := List.mem_map.mp hy
      obtain ⟨z', -, rfl⟩ := List.mem_map.mp hy'
      exact houter _ _ _ _ hlt
  · intro n c
    rw [List.mem_flatMap]
    constructor
    · rintro ⟨⟨k, b⟩, hx, hy⟩
      obtain ⟨⟨m, c'⟩, hz, heq⟩ := List.mem_map.mp hy
      cases heq
      exact ⟨k, b, m, (hxs.mem_iff k b).mp hx, ((hin (k, b) hx).1.mem_iff m _).mp hz, rfl⟩
    · rintro ⟨k, b, m, hb, hc, rfl⟩
      have hx : (k, b) ∈ xs := (hxs.mem_iff k b).mpr hb
      exact ⟨(k, b), hx, List.mem_map.mpr
        ⟨(m, c), ((hin (k, b) hx).1.mem_iff m c).mpr hc, rfl⟩⟩
  · rw [List.map_flatMap, List.flatMap_map]
    apply List.flatMap_congr
    intro x hx
    rw [List.map_map, ← (hin x hx).2]
    rfl

end Lists

/-! ### Numbered items -/

/-- The items of a list, with their numbers, are in the order of their numbers. -/
theorem lists_zipIdx (l : List β) :
    Lists (fun (i : Nat) x => l[i]? = some x.1 ∧ x.2 = i) l.zipIdx := by
  refine ⟨l.zipIdx.map fun x => (x.2, x), ⟨?_, ?_⟩, ?_⟩
  · rw [List.pairwise_map]
    have hidx : (l.zipIdx.map Prod.snd).Pairwise (· < ·) := by
      rw [List.zipIdx_map_snd]
      exact List.pairwise_lt_range'
    exact List.pairwise_map.mp hidx
  · rintro i ⟨b, j⟩
    simp only [List.mem_map, Prod.mk.injEq, Prod.exists, List.mem_zipIdx_iff_getElem?]
    constructor
    · rintro ⟨b, j, hb, rfl, rfl, rfl⟩
      exact ⟨hb, rfl⟩
    · rintro ⟨hb, rfl⟩
      exact ⟨b, j, hb, rfl, rfl, rfl⟩
  · rw [List.map_map]
    exact List.map_id _

/-- The items of a list are in the order of their numbers. -/
theorem lists_getElem (l : List β) : Lists (fun (i : Nat) b => l[i]? = some b) l := by
  have h := (lists_zipIdx l).map Prod.fst
  rw [List.zipIdx_map_fst] at h
  refine h.congr fun i b => ?_
  constructor
  · rintro ⟨⟨b', j⟩, ⟨hb, -⟩, rfl⟩
    exact hb
  · intro hb
    exact ⟨(b, i), ⟨hb, rfl⟩, rfl⟩

end TemplateLint
