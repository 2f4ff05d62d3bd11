import Mathlib.Data.List.Forall2

/-!
# Lists and results

Facts about lists and about runs that may fail, which the library does not have. Nothing here knows about
templates: the same lemmas serve members of JSON objects, entries of directories and rules of an engine.
-/

namespace Except

@[simp] theorem bind_eq_ok_iff {ε α β : Type} {x : Except ε α} {f : α → Except ε β} {b : β} :
    (x >>= f) = .ok b ↔ ∃ a, x = .ok a ∧ f a = .ok b := by
  cases x <;> simp [bind, Except.bind]

end Except

namespace List

variable {α β : Type}

/-- A run over a list succeeds when every step does, with their results in order. -/
theorem mapM_eq_ok_iff {ε : Type} {f : α → Except ε β} {as : List α} {bs : List β} :
    as.mapM f = .ok bs ↔ as.map f = bs.map .ok := by
  induction as generalizing bs with
  | nil =>
    rw [List.mapM_nil, List.map_nil]
    cases bs <;> simp [pure, Except.pure]
  | cons a as ih =>
    rw [List.mapM_cons, List.map_cons, Except.bind_eq_ok_iff]
    constructor
    · rintro ⟨b, hb, h⟩
      obtain ⟨bs', hbs', h⟩ := Except.bind_eq_ok_iff.mp h
      obtain rfl : b :: bs' = bs := Except.ok.inj h
      rw [List.map_cons, hb, ih.mp hbs']
    · intro h
      cases bs with
      | nil => cases h
      | cons b bs =>
        obtain ⟨hb, hbs⟩ := List.cons.inj h
        refine ⟨b, hb, ?_⟩
        rw [ih.mpr hbs]
        rfl

theorem head?_append_cons (as : List α) (x : α) (bs : List α) :
    (as ++ x :: bs).head? = (as ++ [x]).head? := by
  cases as <;> rfl

theorem flatMap_filter (p : α → Bool) (f : α → List β) (l : List α) :
    (l.filter p).flatMap f = l.flatMap fun x => if p x then f x else [] := by
  induction l with
  | nil => rfl
  | cons x l ih => by_cases hx : p x <;> simp [hx, ih]

/-- What holds of the lists that two items stand for, and is kept when lists are joined, holds of all that
two lists of such items stand for. -/
theorem Forall₂.flatMap_rel {γ : Type} {R : α → β → Prop} {S : List γ → List γ → Prop} {f : α → List γ}
    {g : β → List γ} {l : List α} {m : List β} (h : Forall₂ R l m) (hnil : S [] [])
    (happend : ∀ l l' m m', S l l' → S m m' → S (l ++ m) (l' ++ m'))
    (hfg : ∀ a b, R a b → S (f a) (g b)) : S (l.flatMap f) (m.flatMap g) := by
  induction h with
  | nil => exact hnil
  | cons hab _ ih => exact happend _ _ _ _ (hfg _ _ hab) ih

theorem forall₂_flatMap {γ : Type} {R : γ → γ → Prop} {f g : α → List γ} {l : List α}
    (h : ∀ a ∈ l, Forall₂ R (f a) (g a)) : Forall₂ R (l.flatMap f) (l.flatMap g) := by
  have hl : Forall₂ (fun a b => a = b ∧ a ∈ l) l l := forall₂_same.mpr fun a ha => ⟨rfl, ha⟩
  refine hl.flatMap_rel .nil (fun _ _ _ _ hl hm => rel_append hl hm) ?_
  rintro a _ ⟨rfl, ha⟩
  exact h a ha

/-! ### Pairs by their keys -/

section Lookup

variable {κ : Type} [BEq κ] [LawfulBEq κ] {key : κ}

theorem mem_of_lookup {a : α} {ms : List (κ × α)} (h : ms.lookup key = some a) : (key, a) ∈ ms := by
  obtain ⟨before, after, rfl, -⟩ := List.lookup_eq_some_iff.mp h
  simp

theorem lookup_of_mem {a : α} {ms : List (κ × α)} (hnodup : (ms.map (·.1)).Nodup)
    (h : (key, a) ∈ ms) : ms.lookup key = some a := by
  obtain ⟨before, after, rfl⟩ := List.append_of_mem h
  refine List.lookup_eq_some_iff.mpr ⟨before, after, rfl, fun m hm => ?_⟩
  rw [List.map_append, List.nodup_append] at hnodup
  have hne := hnodup.2.2 m.1 (List.mem_map_of_mem hm) key (by simp)
  simpa using hne.symm

/-- Pairs with other keys do not get in the way of a search. -/
theorem lookup_filter_key {p : κ → Bool} (h : p key) (ms : List (κ × α)) :
    (ms.filter (p ·.1)).lookup key = ms.lookup key := by
  induction ms with
  | nil => rfl
  | cons m ms ih =>
    obtain ⟨k, a⟩ := m
    by_cases hk : p k
    · rw [List.filter_cons_of_pos (by exact hk), List.lookup_cons, List.lookup_cons, ih]
    · have hne : (key == k) = false := by
        rw [beq_eq_false_iff_ne]
        rintro rfl
        exact hk h
      rw [List.filter_cons_of_neg (by exact hk), List.lookup_cons, ih, hne]

/-- A pair that is put in does not hide others. -/
theorem lookup_append_cons_of_ne {k : κ} {a : α} {before after : List (κ × α)} (h : key ≠ k) :
    (before ++ (k, a) :: after).lookup key = (before ++ after).lookup key := by
  have hbeq : (key == k) = false := beq_eq_false_iff_ne.mpr h
  rw [List.lookup_append, List.lookup_append, List.lookup_cons, hbeq]

/-- The order of pairs does not matter where no two have one key. -/
theorem lookup_perm {ms ms' : List (κ × α)} (h : ms.Perm ms') (hnodup : (ms.map (·.1)).Nodup)
    (key : κ) : ms.lookup key = ms'.lookup key := by
  induction h with
  | nil => rfl
  | cons m _ ih => rw [List.lookup_cons, List.lookup_cons, ih (List.nodup_cons.mp hnodup).2]
  | swap m m' ms =>
    -- at most one of the two has the key
    have hne : m'.1 ≠ m.1 := by
      intro heq
      exact (List.nodup_cons.mp hnodup).1 (by simp [heq])
    rw [List.lookup_cons, List.lookup_cons, List.lookup_cons, List.lookup_cons]
    by_cases hm : key = m.1
    · subst hm
      simp [beq_eq_false_iff_ne.mpr hne.symm]
    · simp [beq_eq_false_iff_ne.mpr hm]
  | trans h _ ih ih' => rw [ih hnodup, ih' ((h.map _).nodup_iff.mp hnodup)]

end Lookup

/-! ### Items by their numbers -/

theorem exists_of_getElem?_map {f : α → β} {l : List α} {i : Nat} {y : β}
    (h : (l.map f)[i]? = some y) : ∃ x, l[i]? = some x ∧ f x = y :=
  Option.map_eq_some_iff.mp (List.getElem?_map.symm.trans h)

theorem any_getElem?_congr {l l' : List α} {f : α → Bool} (h : l'.map f = l.map f) (i : Nat) :
    l'[i]?.any f = l[i]?.any f := by
  have hi : l'[i]?.map f = l[i]?.map f := by rw [← List.getElem?_map, h, List.getElem?_map]
  cases hl : l[i]? with
  | none =>
    rw [hl, Option.map_none, Option.map_eq_none_iff] at hi
    rw [hi]
  | some x =>
    rw [hl] at hi
    obtain ⟨y, hy, hf⟩ := Option.map_eq_some_iff.mp hi
    rw [hy, Option.any_some, Option.any_some, hf]

theorem flatMap_zipIdx_fst (l : List α) (k : Nat) (f : α → List β) :
    ((l.zipIdx k).flatMap fun x => f x.1) = l.flatMap f := by
  have hmap := List.flatMap_map Prod.fst f (l.zipIdx k)
  rw [List.zipIdx_map_fst] at hmap
  exact hmap.symm

/-- A scan for an item of a kind that stops at one number only looks at the item with this number. -/
theorem any_zipIdx_index (l : List α) (f : α → Bool) (i : Nat) :
    (l.zipIdx.any fun x => f x.1 && decide (x.2 = i)) = l[i]?.any f := by
  rw [Bool.eq_iff_iff, List.any_eq_true, Option.any_eq_true]
  constructor
  · rintro ⟨⟨x, j⟩, hx, h⟩
    obtain ⟨hf, rfl⟩ : f x = true ∧ j = i := by simpa using h
    exact ⟨x, List.mem_zipIdx_iff_getElem?.mp hx, hf⟩
  · rintro ⟨x, hx, hf⟩
    exact ⟨(x, i), List.mem_zipIdx_iff_getElem?.mpr hx, by simpa using hf⟩

theorem map_fst_filter_zipIdx (l : List α) (i k : Nat) :
    ((l.zipIdx k).filter fun x => decide (x.2 ≠ k + i)).map Prod.fst = l.eraseIdx i := by
  induction l generalizing i k with
  | nil => rfl
  | cons x l ih =>
    rw [List.zipIdx_cons]
    cases i with
    | zero =>
      -- the numbers of the rest are greater
      have hrest : (l.zipIdx (k + 1)).filter (fun x => decide (x.2 ≠ k + 0)) = l.zipIdx (k + 1) := by
        rw [List.filter_eq_self]
        intro y hy
        have hlt := List.le_snd_of_mem_zipIdx hy
        rw [decide_eq_true_eq]
        omega
      rw [List.filter_cons_of_neg (by simp), hrest, List.zipIdx_map_fst]
      rfl
    | succ i =>
      have hnum : k + (i + 1) = k + 1 + i := by omega
      have hne : k ≠ k + 1 + i := by omega
      rw [hnum, List.filter_cons_of_pos (by simpa using hne), List.map_cons, ih]
      rfl

theorem map_fst_filter_zipIdx_of_any {l : List α} {f : α → Bool} {i : Nat}
    (h : l[i]?.any f = true) :
    (l.zipIdx.filter fun x => !(f x.1 && decide (x.2 = i))).map Prod.fst = l.eraseIdx i := by
  rw [Option.any_eq_true] at h
  obtain ⟨x, hx, hf⟩ := h
  rw [← map_fst_filter_zipIdx l i 0]
  refine congrArg (List.map Prod.fst) (List.filter_congr ?_)
  rintro ⟨y, j⟩ hy
  by_cases hj : j = i
  · -- only one item has the number, and `f` holds of it
    subst hj
    obtain rfl := Option.some.inj (hx.symm.trans (List.mem_zipIdx_iff_getElem?.mp hy))
    simp [hf]
  · simp [hj]

end List
