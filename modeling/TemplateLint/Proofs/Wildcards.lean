import TemplateLint.Files.Expand

/-!
# What wildcards match

Marks are a set of ways to match the beginning of a name: after some wildcards there is a mark behind
the first `i` characters exactly when these characters are what the wildcards stand for. So
`Wildcard.isMatch` decides `Wildcard.Matches`, which says it without marks.

The second part is about texts without wildcards. They are read as they stand, and so are the
components of a pattern that is put together from such a text and `**/*.json`.
-/

namespace TemplateLint

namespace Text.Marks

variable {α : Type} {items : List α} {marks : Marks} {L : List α → Prop}

/-- There is a mark behind the first items exactly when they have a property. -/
structure Show (items : List α) (marks : Marks) (L : List α → Prop) : Prop where
  length : marks.length = items.length + 1
  mark (i : Nat) (h : i ≤ items.length) : marks[i]? = some true ↔ L (items.take i)

theorem show_start (items : List α) : Show items (start items) (· = []) where
  length := by simp [start]
  mark i h := by
    cases i with
    | zero => simp [start]
    | succ i =>
      have hmark : (start items)[i + 1]? ≠ some true := by
        rw [start, List.getElem?_cons_succ, List.getElem?_map]
        cases items[i]? <;> simp
      have htake : items.take (i + 1) ≠ [] := by
        cases items with
        | nil => cases h
        | cons a items => exact List.cons_ne_nil _ _
      exact iff_of_false hmark htake

theorem Show.step (h : Show items marks L) (p : α → Bool) :
    Show items (marks.step p items) fun w => ∃ u a, w = u ++ [a] ∧ L u ∧ p a where
  length := by simp [Marks.step, h.length]
  mark i hi := by
    cases i with
    | zero => simp [Marks.step]
    | succ i =>
      obtain ⟨a, ha⟩ : ∃ a, items[i]? = some a := ⟨_, List.getElem?_eq_getElem hi⟩
      obtain ⟨m, hm⟩ : ∃ m, marks[i]? = some m :=
        ⟨_, List.getElem?_eq_getElem (by have := h.length; omega)⟩
      have hmark : m = true ↔ L (items.take i) := by
        rw [← h.mark i (by omega), hm, Option.some_inj]
      have hstep : (marks.step p items)[i + 1]? = some (m && p a) := by
        rw [Marks.step, List.getElem?_cons_succ, List.getElem?_zipWith, ha, hm]
      have htake : items.take (i + 1) = items.take i ++ [a] := by
        rw [List.take_add_one, ha]
        rfl
      rw [hstep, htake, Option.some_inj, Bool.and_eq_true, hmark]
      constructor
      · rintro ⟨hL, hp⟩
        exact ⟨_, a, rfl, hL, hp⟩
      · rintro ⟨u, b, heq, hL, hp⟩
        obtain ⟨rfl, rfl⟩ := List.append_inj' heq rfl |>.imp id List.singleton_inj.mp
        exact ⟨hL, hp⟩

theorem length_spreadFrom (seen : Bool) (ms : Marks) :
    (spreadFrom seen ms).length = ms.length := by
  induction ms generalizing seen with
  | nil => rfl
  | cons m ms ih => rw [spreadFrom, List.length_cons, ih, List.length_cons]

theorem getElem?_spreadFrom (seen : Bool) (ms : Marks) (i : Nat) (hi : i < ms.length) :
    (spreadFrom seen ms)[i]? = some true ↔ seen ∨ ∃ k ≤ i, ms[k]? = some true := by
  induction ms generalizing seen i with
  | nil => cases hi
  | cons m ms ih =>
    rw [spreadFrom]
    cases i with
    | zero => simp
    | succ i =>
      rw [List.getElem?_cons_succ, ih _ i (Nat.lt_of_succ_lt_succ hi), Bool.or_eq_true, or_assoc]
      apply or_congr_right
      constructor
      · rintro (rfl | ⟨k, hk, hmark⟩)
        · exact ⟨0, Nat.zero_le _, rfl⟩
        · exact ⟨k + 1, Nat.succ_le_succ hk, hmark⟩
      · rintro ⟨_ | k, hk, hmark⟩
        · exact .inl (Option.some_inj.mp hmark)
        · exact .inr ⟨k, Nat.le_of_succ_le_succ hk, hmark⟩

theorem Show.spread (h : Show items marks L) :
    Show items marks.spread fun w => ∃ u v, w = u ++ v ∧ L u where
  length := by rw [Marks.spread, length_spreadFrom, h.length]
  mark i hi := by
    rw [Marks.spread, getElem?_spreadFrom false marks i (by have := h.length; omega)]
    constructor
    · rintro (hseen | ⟨k, hk, hmark⟩)
      · cases hseen
      · refine ⟨items.take k, (items.take i).drop k, ?_, (h.mark k (by omega)).mp hmark⟩
        have htake : (items.take i).take k = items.take k := by
          rw [List.take_take, Nat.min_eq_left hk]
        rw [← htake, List.take_append_drop]
    · rintro ⟨u, v, heq, hL⟩
      have hlength : u.length ≤ i := by
        have := congrArg List.length heq
        rw [List.length_append, List.length_take] at this
        omega
      have hu : items.take u.length = u := by
        rw [← Nat.min_eq_left hlength, ← List.take_take, heq, List.take_left]
      exact .inr ⟨u.length, hlength, (h.mark _ (by omega)).mpr (hu.symm ▸ hL)⟩

theorem Show.congr {L' : List α → Prop} (h : Show items marks L) (hL : ∀ w, L w ↔ L' w) :
    Show items marks L' :=
  ⟨h.length, fun i hi => (h.mark i hi).trans (hL _)⟩

theorem Show.atEnd_iff (h : Show items marks L) : marks.atEnd ↔ L items := by
  have hlast := h.mark items.length (Nat.le_refl _)
  rw [List.take_length] at hlast
  rw [atEnd, decide_eq_true_iff, List.getLast?_eq_getElem?, h.length, Nat.add_sub_cancel, hlast]

end Text.Marks

namespace Wildcard

/-- Whether a wildcard stands for some characters. -/
def Stands : Wildcard → List Char → Prop
  | char c, u => u = [c]
  | anyChar, u => ∃ c, u = [c]
  | oneOf negated rs, u => ∃ c, u = [c] ∧ inRanges rs c ≠ negated
  | anyChars, _ => True
  | anyDirectories, _ => True

/-- Whether a name is made of parts that the wildcards stand for. -/
def Matches : List Wildcard → List Char → Prop
  | [], cs => cs = []
  | w :: ws, cs => ∃ u v, cs = u ++ v ∧ w.Stands u ∧ Matches ws v

section

variable {name : List Char} {marks : Text.Marks} {L : List Char → Prop}

theorem show_step (h : marks.Show name L) {p : Char → Bool} {w : Wildcard}
    (hw : ∀ u, w.Stands u ↔ ∃ c, u = [c] ∧ p c) :
    (marks.step p name).Show name fun cs => ∃ u v, cs = u ++ v ∧ L u ∧ w.Stands v := by
  refine (h.step p).congr fun cs => ?_
  constructor
  · rintro ⟨u, a, rfl, hL, hp⟩
    exact ⟨u, [a], rfl, hL, (hw _).mpr ⟨a, rfl, hp⟩⟩
  · rintro ⟨u, v, rfl, hL, hv⟩
    obtain ⟨a, rfl, hp⟩ := (hw v).mp hv
    exact ⟨u, a, rfl, hL, hp⟩

theorem show_move (h : marks.Show name L) (w : Wildcard) :
    (move name marks w).Show name fun cs => ∃ u v, cs = u ++ v ∧ L u ∧ w.Stands v := by
  cases w with
  | char c => exact show_step h (by simp [Stands])
  | anyChar => exact show_step h (by simp [Stands])
  | oneOf negated rs => exact show_step h (by simp [Stands])
  | anyChars => exact h.spread.congr (by simp [Stands])
  | anyDirectories => exact h.spread.congr (by simp [Stands])

/-- After some wildcards the marks show what they match. -/
theorem show_foldl_move (h : marks.Show name L) (ws : List Wildcard) :
    (ws.foldl (move name) marks).Show name fun cs => ∃ u v, cs = u ++ v ∧ L u ∧ Matches ws v := by
  induction ws generalizing marks L with
  | nil => exact h.congr (by simp [Matches])
  | cons w ws ih =>
    refine (ih (show_move h w)).congr fun cs => ?_
    constructor
    · rintro ⟨_, v, rfl, ⟨u, u', rfl, hL, hw⟩, hws⟩
      exact ⟨u, u' ++ v, List.append_assoc .., hL, u', v, rfl, hw, hws⟩
    · rintro ⟨u, _, rfl, hL, u', v, rfl, hw, hws⟩
      exact ⟨u ++ u', v, (List.append_assoc ..).symm, ⟨u, u', rfl, hL, hw⟩, hws⟩

end

theorem isMatch_iff {ws : List Wildcard} {name : String} :
    isMatch ws name ↔ Matches ws name.toList := by
  have hshow := show_foldl_move (Text.Marks.show_start name.toList) ws
  rw [isMatch, hshow.atEnd_iff]
  constructor
  · rintro ⟨u, v, heq, rfl, hmatch⟩
    rw [heq]
    exact hmatch
  · intro hmatch
    exact ⟨[], name.toList, rfl, rfl, hmatch⟩

theorem matches_char {cs : List Char} : Matches (cs.map char) cs := by
  induction cs with
  | nil => rfl
  | cons c cs ih => exact ⟨[c], cs, rfl, rfl, ih⟩

/-! ### Texts without wildcards -/

/-- Whether a character stands for itself in a pattern. -/
def isPlain (c : Char) : Bool := c != '?' && c != '*' && c != '['

theorem read_cons_of_isPlain {c : Char} (h : isPlain c) (before : Option Char) (position : Nat)
    (cs : List Char) :
    read before position (c :: cs) = (read (some c) (position + 1) cs).map (char c :: ·) := by
  simp only [isPlain, Bool.and_eq_true, bne_iff_ne] at h
  rw [read]
  all_goals simp_all

/-- Characters without a meaning of their own are read as they are. -/
theorem exists_read_append {cs : List Char} (h : ∀ c ∈ cs, isPlain c) (before : Option Char)
    (position : Nat) (rest : List Char) :
    ∃ before' position', read before position (cs ++ rest) =
      (read before' position' rest).map (cs.map char ++ ·) := by
  induction cs generalizing before position with
  | nil =>
    refine ⟨before, position, ?_⟩
    show read before position rest = _
    cases read before position rest <;> rfl
  | cons c cs ih =>
    obtain ⟨before', position', hread⟩ :=
      ih (fun d hd => h d (List.mem_cons_of_mem c hd)) (some c) (position + 1)
    refine ⟨before', position', ?_⟩
    rw [List.cons_append, read_cons_of_isPlain (h c List.mem_cons_self), hread]
    cases read before' position' rest <;> rfl

theorem parse_of_isPlain {s : String} (h : ∀ c ∈ s.toList, isPlain c) :
    parse s = .ok (s.toList.map char) := by
  obtain ⟨before, position, hread⟩ := exists_read_append h none 0 []
  rw [List.append_nil, read] at hread
  rw [parse, hread, Except.map, List.append_nil]

/-- The wildcards of `*.json`. -/
def anyJson : List Wildcard := anyChars :: ".json".toList.map char

theorem parse_anyDirectories : parse "**" = .ok [anyDirectories] := by
  show read none 0 ['*', '*'] = _
  simp [read]

theorem parse_anyJson : parse "*.json" = .ok anyJson := by
  show read none 0 ['*', '.', 'j', 's', 'o', 'n'] = .ok (anyChars :: ['.', 'j', 's', 'o', 'n'].map char)
  simp [read, Except.map]

/-- A text without wildcards can be followed by those for all files of a kind. -/
theorem exists_parse_append {s : String} (h : ∀ c ∈ s.toList, isPlain c) :
    ∃ ws, parse (s ++ "/**/*.json") = .ok ws := by
  have htext : (s ++ "/**/*.json").toList =
      s.toList ++ ['/', '*', '*', '/', '*', '.', 'j', 's', 'o', 'n'] := by
    rw [String.toList_append]
    rfl
  obtain ⟨before, position, hread⟩ :=
    exists_read_append h none 0 ['/', '*', '*', '/', '*', '.', 'j', 's', 'o', 'n']
  rw [parse, htext, hread]
  simp [read, Except.map]

theorem isMatch_anyJson {name : String} {cs : List Char} (h : name.toList = cs ++ ".json".toList) :
    isMatch anyJson name := by
  rw [isMatch_iff, h]
  exact ⟨cs, _, rfl, trivial, matches_char⟩

end Wildcard

namespace PatternStep

theorem ofWildcards_map_char (cs : List Char) :
    ofWildcards (cs.map .char) = literal (String.ofList cs) := by
  have hliteral : Wildcard.literal? (cs.map .char) = some cs := by
    induction cs with
    | nil => rfl
    | cons c cs ih => rw [List.map_cons, Wildcard.literal?, ih]; rfl
  rw [ofWildcards, hliteral]

theorem collapse_literals (names : List String) (ws : List Wildcard) :
    collapse (names.map literal ++ [anyDirectories, wildcard ws]) =
      names.map literal ++ [anyDirectories, wildcard ws] := by
  induction names with
  | nil => rfl
  | cons name names ih => rw [List.map_cons, List.cons_append, collapse, ih]; simp

end PatternStep

end TemplateLint
