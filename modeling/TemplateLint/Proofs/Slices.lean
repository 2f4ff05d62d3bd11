import TemplateLint.Template.Source
import Mathlib.Algebra.GroupWithZero.Nat

/-!
# What a slice quotes

A source is kept line by line, and a slice is put together from pieces of lines. Seen from the outside
there is one text, the lines with line feeds between them, and a position is a number of characters in it.

* `upTo_take`: the lines up to a position are the text up to its offset.
* `between_eq_drop`: a slice is what the lines up to its end have behind its start. So it is the text
  between two offsets.
* `sliceByIndex?` takes the lines by their numbers and calculates in machine words, where each step may go
  wrong. `sliceByIndex?_eq`: no step does.
* `slice_exact`: all of this for every source and every span.
-/

namespace TemplateLint.Source

/-! ### Positions in the whole text -/

/-- The lines as one text. -/
def text (s : Source) : String := "\n".intercalate s.lines

/-- How many characters stand before a column of a line. Every line before adds its line feed, and columns
beyond the end of the line do not count. -/
def offsetIn (lines : List String) (line column : Nat) : Nat :=
  ((lines.take (line - 1)).map fun l => l.length + 1).sum + min column (lines.getD (line - 1) "").length

/-- The offset of a position in the text. -/
def offset (s : Source) (p : Position) : Nat := offsetIn s.lines p.line.toNat p.column.toNat

/-- The span does not lie within the lines. -/
def IsOutside (s : Source) (span : Span) : Prop :=
  span.start.line = 0 ∨ span.stop.line < span.start.line ∨ s.lines.length < span.stop.line.toNat

instance (s : Source) (span : Span) : Decidable (s.IsOutside span) :=
  inferInstanceAs (Decidable (_ ∨ _ ∨ _))

@[simp] theorem offsetIn_one (l : String) (lines : List String) (column : Nat) :
    offsetIn (l :: lines) 1 column = min column l.length := by
  simp [offsetIn]

@[simp] theorem offsetIn_cons (l : String) (lines : List String) (line column : Nat) :
    offsetIn (l :: lines) (line + 2) column = l.length + 1 + offsetIn lines (line + 1) column := by
  simp [offsetIn, Nat.add_assoc]

theorem toList_text_cons (l : String) {lines : List String} (h : lines ≠ []) :
    (text ⟨l :: lines⟩).toList = l.toList ++ '\n' :: (text ⟨lines⟩).toList := by
  have hne : lines.map String.toList ≠ [] := by simpa using h
  simp only [text, String.toList_intercalate, List.map_cons, List.intercalate_cons_of_ne_nil hne]
  simp

theorem toList_text_singleton (l : String) : (text ⟨[l]⟩).toList = l.toList := by
  simp [text]

/-! ### The lines up to a position -/

@[simp] theorem toList_textSlice (n k : Nat) (l : String) :
    (Text.slice n k l).toList = (l.toList.drop n).take k := by
  simp [Text.slice]

theorem upTo_cons (column : Nat) (l : String) {lines : List String} (h : lines ≠ []) :
    upTo column (l :: lines) = l ++ "\n" ++ upTo column lines := by
  cases lines with
  | nil => exact absurd rfl h
  | cons l' lines => rfl

theorem between_cons (start stop : Nat) (l : String) {lines : List String} (h : lines ≠ []) :
    between start stop (l :: lines) = Text.slice start l.length l ++ "\n" ++ upTo stop lines := by
  cases lines with
  | nil => exact absurd rfl h
  | cons l' lines => rfl

theorem take_succ_ne_nil {lines : List String} {n : Nat} (h : n < lines.length) :
    lines.take (n + 1) ≠ [] := by
  apply List.ne_nil_of_length_pos
  rw [List.length_take]
  omega

/-- The lines up to a position are the text up to its offset. -/
theorem upTo_take {lines : List String} {n : Nat} (column : Nat) (h : n < lines.length) :
    (upTo column (lines.take (n + 1))).toList =
      (text ⟨lines⟩).toList.take (offsetIn lines (n + 1) column) := by
  -- one line after the other goes from both sides, and what is left of the text starts with the line
  induction lines generalizing n with
  | nil => exact absurd h (Nat.not_lt_zero n)
  | cons l lines ih =>
    cases n with
    | zero =>
      have hprefix : l.toList <+: (text ⟨l :: lines⟩).toList := by
        by_cases hlines : lines = []
        · refine ⟨[], ?_⟩
          rw [hlines, toList_text_singleton, List.append_nil]
        · rw [toList_text_cons l hlines]
          exact List.prefix_append _ _
      obtain ⟨rest, hrest⟩ := hprefix
      have hmin : min column l.length ≤ l.toList.length := by
        rw [String.length_toList]
        exact Nat.min_le_right _ _
      rw [offsetIn_one, ← hrest, List.take_append_of_le_length hmin, ← String.length_toList,
        ← List.take_eq_take_min]
      simp [upTo]
    | succ n =>
      have hn : n < lines.length := Nat.lt_of_succ_lt_succ h
      have hlines : lines ≠ [] := List.ne_nil_of_length_pos (Nat.zero_lt_of_lt hn)
      rw [List.take_succ_cons, upTo_cons column l (take_succ_ne_nil hn), toList_text_cons l hlines,
        offsetIn_cons, String.toList_append, String.toList_append, ih hn, ← String.length_toList,
        Nat.add_assoc, List.take_length_add_append, Nat.add_comm 1, List.take_succ_cons]
      simp

/-! ### The lines between two positions -/

theorem between_eq_drop_head (start stop : Nat) (l : String) (more : List String) :
    (between start stop (l :: more)).toList =
      (upTo stop (l :: more)).toList.drop (min start l.length) := by
  have hdrop : l.toList.drop (min start l.length) = l.toList.drop start := by
    rw [← String.length_toList, ← List.drop_eq_drop_min]
  by_cases hmore : more = []
  · subst hmore
    simp only [upTo, between, toList_textSlice, List.drop_zero]
    rw [List.drop_take, hdrop]
    rcases Nat.le_total start l.length with hle | hge
    · rw [Nat.min_eq_left hle]
    · -- behind the end of the line there is nothing, whatever the end of the slice is
      rw [List.drop_eq_nil_of_le (by rwa [String.length_toList]), List.take_nil, List.take_nil]
  · have hrest : (l.toList.drop start).take l.length = l.toList.drop start := by
      apply List.take_of_length_le
      rw [List.length_drop, String.length_toList]
      exact Nat.sub_le _ _
    have hmin : min start l.length ≤ l.toList.length := by
      rw [String.length_toList]
      exact Nat.min_le_right _ _
    rw [upTo_cons stop l hmore, between_cons start stop l hmore]
    simp only [String.toList_append, toList_textSlice, List.append_assoc]
    rw [List.drop_append_of_le_length hmin, hdrop, hrest]

/-- A slice is what the lines up to its end have behind its start. The first and the last line of it are
the lines `n + 1` and `n + k + 1`. -/
theorem between_eq_drop {lines : List String} {n k : Nat} (start stop : Nat)
    (h : n + k < lines.length) :
    (between start stop ((lines.drop n).take (k + 1))).toList =
      (upTo stop (lines.take (n + k + 1))).toList.drop (offsetIn lines (n + 1) start) := by
  -- the lines before the slice go one by one, until it starts on the first of those that are left
  induction lines generalizing n with
  | nil => exact absurd h (Nat.not_lt_zero _)
  | cons l lines ih =>
    cases n with
    | zero =>
      rw [List.drop_zero, Nat.zero_add, Nat.zero_add, offsetIn_one, List.take_succ_cons]
      exact between_eq_drop_head start stop l (lines.take k)
    | succ n =>
      have hn : n + k < lines.length := by
        rw [List.length_cons] at h
        omega
      have hlen : (l ++ "\n").toList.length = l.length + 1 := by
        rw [String.length_toList, String.length_append]
        rfl
      rw [Nat.add_right_comm n 1 k, List.drop_succ_cons, ih hn, List.take_succ_cons,
        upTo_cons _ l (take_succ_ne_nil hn), offsetIn_cons, String.toList_append,
        ← List.drop_drop, List.drop_left' hlen]

theorem isOutside_iff {s : Source} {span : Span} :
    s.IsOutside span ↔ span.start.line.toNat = 0 ∨ span.stop.line.toNat < span.start.line.toNat ∨
      s.lines.length < span.stop.line.toNat := by
  rw [IsOutside, ← UInt64.toNat_inj, UInt64.lt_iff_toNat_lt]
  rfl

theorem slice_of_isOutside {s : Source} {span : Span} (h : s.IsOutside span) : s.slice span = "" :=
  if_pos (isOutside_iff.mp h)

/-- A span within the lines: its first line has some lines before it, its last line some more. -/
theorem exists_lines_of_not_isOutside {s : Source} {span : Span} (h : ¬ s.IsOutside span) :
    ∃ n k, span.start.line.toNat = n + 1 ∧ span.stop.line.toNat = n + k + 1 ∧
      n + k < s.lines.length ∧
      s.slice span = between span.start.column.toNat span.stop.column.toNat
        ((s.lines.drop n).take (k + 1)) := by
  rw [isOutside_iff] at h
  have hzero : span.start.line.toNat ≠ 0 := fun hzero => h (Or.inl hzero)
  have hle : span.start.line.toNat ≤ span.stop.line.toNat :=
    Nat.not_lt.mp fun hlt => h (Or.inr (Or.inl hlt))
  have hlines : span.stop.line.toNat ≤ s.lines.length :=
    Nat.not_lt.mp fun hlt => h (Or.inr (Or.inr hlt))
  refine ⟨span.start.line.toNat - 1, span.stop.line.toNat - span.start.line.toNat, ?_, ?_, ?_,
    if_neg h⟩
  · omega
  · omega
  · omega

/-- A span within the lines quotes the text from the offset of its start to that of its end. -/
theorem toList_slice_of_not_isOutside {s : Source} {span : Span} (h : ¬ s.IsOutside span) :
    (s.slice span).toList =
      (s.text.toList.drop (s.offset span.start)).take (s.offset span.stop - s.offset span.start) := by
  obtain ⟨n, k, hstart, hstop, hlines, hslice⟩ := exists_lines_of_not_isOutside h
  rw [hslice, between_eq_drop _ _ hlines, upTo_take _ hlines, List.drop_take, offset, offset, hstart,
    hstop]

/-- A slice holds a line feed when it goes over more than one line. -/
theorem newline_mem_slice_iff {s : Source} (hs : ∀ l ∈ s.lines, '\n' ∉ l.toList) {span : Span} :
    '\n' ∈ (s.slice span).toList ↔ ¬ s.IsOutside span ∧ span.start.line ≠ span.stop.line := by
  by_cases h : s.IsOutside span
  · simp [slice_of_isOutside h, h]
  obtain ⟨n, k, hstart, hstop, hlines, hslice⟩ := exists_lines_of_not_isOutside h
  have hn : n < s.lines.length := Nat.lt_of_le_of_lt (Nat.le_add_right n k) hlines
  rw [hslice, List.drop_eq_getElem_cons hn, List.take_succ_cons, and_iff_right h, Ne,
    ← UInt64.toNat_inj, hstart, hstop]
  cases k with
  | zero =>
    simp only [List.take_zero, between, toList_textSlice, Nat.add_zero, not_true_eq_false, iff_false]
    intro hmem
    exact hs _ (List.getElem_mem hn) (List.mem_of_mem_drop (List.mem_of_mem_take hmem))
  | succ k =>
    have hmore : (s.lines.drop (n + 1)).take (k + 1) ≠ [] := by
      apply take_succ_ne_nil
      rw [List.length_drop]
      omega
    rw [between_cons _ _ _ hmore]
    simp

/-! ### Lines by their numbers -/

/-- The difference of two words, if it is not negative. -/
def minus? (a b : UInt64) : Option UInt64 := if b ≤ a then some (a - b) else none

/-- The line at an index, if there is one. -/
def lineAt? (s : Source) (i : UInt64) : Option String := s.lines[i.toNat]?

/-- The lines from an index to another one, if they are in order and within the lines. -/
def linesFrom? (s : Source) (i j : UInt64) : Option (List String) :=
  if i ≤ j ∧ j.toNat ≤ s.lines.length then some ((s.lines.take j.toNat).drop i.toNat) else none

/-- The text of a span, put together from lines that are taken by their numbers. There is none as soon as
one of the numbers falls below zero or leads beyond the lines. -/
def sliceByIndex? (s : Source) (span : Span) : Option String :=
  if s.IsOutside span then some ""
  else do
    let first ← s.lineAt? (← minus? span.start.line 1)
    if span.start.line = span.stop.line then
      -- an end before the start leaves no characters to take
      return Text.slice span.start.column.toNat (span.stop.column.toNat - span.start.column.toNat) first
    else
      let inner ← s.linesFrom? span.start.line (← minus? span.stop.line 1)
      let last ← s.lineAt? (← minus? span.stop.line 1)
      return inner.foldl (fun out line => out ++ "\n" ++ line)
        (Text.slice span.start.column.toNat first.length first) ++ "\n" ++
          Text.slice 0 span.stop.column.toNat last

theorem minus?_one {a : UInt64} {n : Nat} (h : a.toNat = n + 1) :
    ∃ b, minus? a 1 = some b ∧ b.toNat = n := by
  have hle : 1 ≤ a := by
    rw [UInt64.le_iff_toNat_le, h]
    exact Nat.succ_le_succ (Nat.zero_le n)
  refine ⟨a - 1, if_pos hle, ?_⟩
  rw [UInt64.toNat_sub_of_le _ _ hle, h]
  rfl

/-- Lines that are added one by one, and then a part of the last one. -/
theorem foldl_append_upTo (column : Nat) (out : String) (inner : List String) (last : String) :
    inner.foldl (fun out line => out ++ "\n" ++ line) out ++ "\n" ++ Text.slice 0 column last =
      out ++ "\n" ++ upTo column (inner ++ [last]) := by
  induction inner generalizing out with
  | nil => rfl
  | cons l inner ih =>
    rw [List.foldl_cons, ih, List.cons_append, upTo_cons _ l (by simp)]
    simp only [String.append_assoc]

/-- Several lines are the first of them, those between, and the last one. -/
theorem take_drop_eq_cons {lines : List String} {n k : Nat} (h : n + (k + 1) < lines.length) :
    (lines.drop n).take (k + 1 + 1) =
      lines[n] :: ((lines.take (n + (k + 1))).drop (n + 1) ++ [lines[n + (k + 1)]]) := by
  have hn : n < lines.length := by omega
  have hle : n + 1 ≤ (lines.take (n + (k + 1))).length := by
    rw [List.length_take]
    omega
  have hlast : (lines.drop (n + 1)).take (k + 1) =
      (lines.take (n + (k + 1))).drop (n + 1) ++ [lines[n + (k + 1)]] := by
    rw [← List.drop_append_of_le_length hle, List.take_append_getElem h, List.drop_take]
    congr 1
    omega
  rw [List.drop_eq_getElem_cons hn, List.take_succ_cons, hlast]

theorem sliceByIndex?_eq (s : Source) (span : Span) : s.sliceByIndex? span = some (s.slice span) := by
  by_cases h : s.IsOutside span
  · rw [sliceByIndex?, if_pos h, slice_of_isOutside h]
  obtain ⟨n, k, hstart, hstop, hlines, hslice⟩ := exists_lines_of_not_isOutside h
  obtain ⟨i, hi, hin⟩ := minus?_one hstart
  obtain ⟨j, hj, hjn⟩ := minus?_one hstop
  have hfirst : s.lineAt? i = some s.lines[n] := by
    rw [lineAt?, hin, List.getElem?_eq_getElem]
  have hlast : s.lineAt? j = some s.lines[n + k] := by
    rw [lineAt?, hjn, List.getElem?_eq_getElem]
  simp only [sliceByIndex?, if_neg h, hi, hj, hfirst, hlast, Option.bind_eq_bind, Option.bind_some,
    hslice]
  cases k with
  | zero =>
    have hone : span.start.line = span.stop.line := UInt64.toNat_inj.mp (hstart.trans hstop.symm)
    rw [if_pos hone, List.drop_eq_getElem_cons (i := n) hlines]
    rfl
  | succ k =>
    have hmore : span.start.line ≠ span.stop.line := by
      intro heq
      rw [heq, hstop] at hstart
      omega
    have hinner : s.linesFrom? span.start.line j =
        some ((s.lines.take (n + (k + 1))).drop (n + 1)) := by
      rw [linesFrom?, if_pos, hstart, hjn]
      rw [UInt64.le_iff_toNat_le, hstart, hjn]
      omega
    rw [if_neg hmore, hinner, take_drop_eq_cons hlines, between_cons _ _ _ (by simp)]
    exact congrArg some (foldl_append_upTo _ _ _ _)

/-- **A slice quotes the text from the offset of its start to that of its end.** The lines are taken by
numbers that never lead beyond them or below zero. A span that is not recorded, ends on an earlier line
than it starts, or ends beyond the last line quotes nothing; every other span quotes exactly the
characters between its offsets, which are none when the end does not lie behind the start. So everything
that is quoted is one part of the text. -/
theorem slice_exact (s : Source) (span : Span) :
    s.sliceByIndex? span = some (s.slice span) ∧
    s.slice span = (if s.IsOutside span then "" else String.ofList
      ((s.text.toList.drop (s.offset span.start)).take (s.offset span.stop - s.offset span.start))) ∧
    (s.slice span).toList <:+: s.text.toList := by
  refine ⟨sliceByIndex?_eq s span, ?_⟩
  by_cases h : s.IsOutside span
  · rw [if_pos h, slice_of_isOutside h]
    exact ⟨rfl, List.nil_infix⟩
  · have hquote := toList_slice_of_not_isOutside h
    rw [if_neg h, ← hquote, String.ofList_toList]
    refine ⟨rfl, ?_⟩
    rw [hquote]
    exact (List.take_prefix _ _).isInfix.trans (List.drop_suffix _ _).isInfix

-- both columns lie beyond the ends of their lines
example : Source.slice ⟨["ab", "", "c"]⟩ ⟨⟨1, 5⟩, ⟨3, 9⟩⟩ = "\n\nc" := by decide +kernel

end TemplateLint.Source
