import TemplateLint.Text.Basic
import TemplateLint.Proofs.ListLemmas
import Mathlib.Data.List.Basic

/-!
# The lines of a text

A text can be read line by line: what stands before a line feed is split for itself
(`lines_append_newline`). A text that ends with a line feed has as many lines as line feeds
(`length_lines_newline`), and no line holds one (`not_mem_of_mem_lines`). A text that is put together from
parts holds the characters of the parts and of what stands between them (`not_mem_intercalate`).
-/

namespace TemplateLint.Text

/-! ### One character more -/

/-- A line feed ends an empty line, a carriage return before it makes no difference, and every other
character goes to the front of the first line. -/
theorem lineChars_cons (c : Char) (cs : List Char) :
    (c = '\n' ∧ lineChars (c :: cs) = [] :: lineChars cs) ∨
    (c = '\r' ∧ cs.head? = some '\n' ∧ lineChars (c :: cs) = lineChars cs) ∨
    (c ≠ '\n' ∧ (c = '\r' → cs.head? ≠ some '\n') ∧
      lineChars (c :: cs) = (c :: (lineChars cs).headD []) :: (lineChars cs).tail) := by
  by_cases hc : c = '\n'
  · subst hc
    exact Or.inl ⟨rfl, by rw [lineChars]⟩
  by_cases hr : c = '\r' ∧ cs.head? = some '\n'
  · obtain ⟨rfl, hcs⟩ := hr
    obtain ⟨rest, rfl⟩ := List.head?_eq_some_iff.mp hcs
    exact Or.inr (Or.inl ⟨rfl, rfl, by rw [lineChars, lineChars]⟩)
  · refine Or.inr (Or.inr ⟨hc, fun h h' => hr ⟨h, h'⟩, ?_⟩)
    rw [lineChars.eq_4]
    · cases lineChars cs <;> rfl
    · exact hc
    · rintro rest rfl rfl
      exact hr ⟨rfl, rfl⟩

theorem lineChars_ne_nil {cs : List Char} (h : cs ≠ []) : lineChars cs ≠ [] := by
  induction cs with
  | nil => exact absurd rfl h
  | cons c cs ih =>
    obtain ⟨-, heq⟩ | ⟨-, hcs, heq⟩ | ⟨-, -, heq⟩ := lineChars_cons c cs
    · simp [heq]
    · rw [heq]
      apply ih
      rintro rfl
      cases hcs
    · simp [heq]

/-! ### Line by line -/

theorem lineChars_append_newline (as bs : List Char) :
    lineChars (as ++ '\n' :: bs) = lineChars (as ++ ['\n']) ++ lineChars bs := by
  induction as with
  | nil => simp [lineChars]
  | cons c as ih =>
    have hhead := List.head?_append_cons as '\n' bs
    have hne : as ++ ['\n'] ≠ [] := by simp
    obtain ⟨l, ls, hls⟩ := List.exists_cons_of_ne_nil (lineChars_ne_nil hne)
    rw [List.cons_append, List.cons_append]
    -- both texts start with the same two characters, so the same case applies to them
    obtain ⟨rfl, heq⟩ | ⟨rfl, hcs, heq⟩ | ⟨hc, hr, heq⟩ := lineChars_cons c (as ++ ['\n'])
    · rw [heq, lineChars, ih]
      rfl
    · obtain ⟨h, -⟩ | ⟨-, -, heq'⟩ | ⟨-, h, -⟩ := lineChars_cons '\r' (as ++ '\n' :: bs)
      · cases h
      · rw [heq, heq', ih]
      · exact absurd (hhead.trans hcs) (h rfl)
    · obtain ⟨h, -⟩ | ⟨h, hcs, -⟩ | ⟨-, -, heq'⟩ := lineChars_cons c (as ++ '\n' :: bs)
      · exact absurd h hc
      · exact absurd (hhead.symm.trans hcs) (hr h)
      · rw [heq, heq', ih, hls]
        rfl

theorem length_lineChars_newline (cs : List Char) :
    (lineChars (cs ++ ['\n'])).length = cs.count '\n' + 1 := by
  induction cs with
  | nil => simp [lineChars]
  | cons c cs ih =>
    have hne : cs ++ ['\n'] ≠ [] := by simp
    obtain ⟨l, ls, hls⟩ := List.exists_cons_of_ne_nil (lineChars_ne_nil hne)
    rw [List.cons_append]
    obtain ⟨rfl, heq⟩ | ⟨rfl, -, heq⟩ | ⟨hc, -, heq⟩ := lineChars_cons c (cs ++ ['\n'])
    · rw [heq, List.length_cons, ih, List.count_cons_self]
    · rw [heq, ih, List.count_cons_of_ne (by decide)]
    · rw [heq, List.count_cons_of_ne hc, ← ih, hls]
      rfl

/-- A text without a line feed is one line, if it does not end with what belongs to a line's end. -/
theorem lineChars_newline_of_not_mem {cs : List Char} (h : '\n' ∉ cs)
    (hlast : cs.getLast? ≠ some '\r') : lineChars (cs ++ ['\n']) = [cs] := by
  induction cs with
  | nil => simp [lineChars]
  | cons c cs ih =>
    have hcs : '\n' ∉ cs := fun hmem => h (List.mem_cons_of_mem c hmem)
    rw [List.cons_append]
    obtain ⟨rfl, -⟩ | ⟨rfl, hhead, -⟩ | ⟨-, -, heq⟩ := lineChars_cons c (cs ++ ['\n'])
    · exact absurd List.mem_cons_self h
    · -- a carriage return at the end is excluded, and there is no line feed behind another one
      cases cs with
      | nil => exact absurd rfl hlast
      | cons c' cs =>
        obtain rfl : c' = '\n' := by simpa using hhead
        exact absurd List.mem_cons_self hcs
    · rw [heq]
      cases cs with
      | nil => simp [lineChars]
      | cons c' cs =>
        rw [ih hcs (by simpa using hlast)]
        rfl

/-- A text without a line feed is its only line. -/
theorem lineChars_of_not_mem {cs : List Char} (hne : cs ≠ []) (h : '\n' ∉ cs) : lineChars cs = [cs] := by
  induction cs with
  | nil => exact absurd rfl hne
  | cons c cs ih =>
    rw [List.mem_cons, not_or] at h
    obtain ⟨hc, -⟩ | ⟨-, hhead, -⟩ | ⟨-, -, heq⟩ := lineChars_cons c cs
    · exact absurd hc.symm h.1
    · exact absurd (List.mem_of_mem_head? hhead) h.2
    · rw [heq]
      cases cs with
      | nil => simp [lineChars]
      | cons c' cs =>
        rw [ih (List.cons_ne_nil c' cs) h.2]
        rfl

/-- A line has no line feed in it and no character that is not in the text. -/
theorem mem_of_mem_lineChars {cs l : List Char} {c : Char} (h : l ∈ lineChars cs) (hc : c ∈ l) :
    c ∈ cs ∧ c ≠ '\n' := by
  induction cs generalizing l with
  | nil => cases h
  | cons d cs ih =>
    have hrest {l : List Char} (h : l ∈ lineChars cs) (hc : c ∈ l) : c ∈ d :: cs ∧ c ≠ '\n' :=
      (ih h hc).imp_left (List.mem_cons_of_mem d)
    obtain ⟨-, heq⟩ | ⟨-, -, heq⟩ | ⟨hd, -, heq⟩ := lineChars_cons d cs
    · rw [heq] at h
      rcases List.mem_cons.mp h with rfl | h
      · cases hc
      · exact hrest h hc
    · exact hrest (heq ▸ h) hc
    · rw [heq] at h
      rcases List.mem_cons.mp h with rfl | h
      · rcases List.mem_cons.mp hc with rfl | hc
        · exact ⟨List.mem_cons_self, hd⟩
        · cases hls : lineChars cs with
          | nil => simp [hls] at hc
          | cons l ls => exact hrest (hls ▸ List.mem_cons_self) (by simpa [hls] using hc)
      · exact hrest (List.mem_of_mem_tail h) hc

/-! ### The lines as texts -/

/-- What stands before a line feed is split for itself. -/
theorem lines_append_newline (a b : String) :
    lines (a ++ "\n" ++ b) = lines (a ++ "\n") ++ lines b := by
  have hfeed : "\n".toList = ['\n'] := rfl
  rw [lines, lines, lines, String.toList_append, String.toList_append, hfeed, List.append_assoc,
    List.singleton_append, lineChars_append_newline, List.map_append]

theorem length_lines_newline (s : String) :
    (lines (s ++ "\n")).length = s.toList.count '\n' + 1 := by
  rw [lines, List.length_map, String.toList_append]
  exact length_lineChars_newline s.toList

theorem lines_newline_of_not_mem {s : String} (h : '\n' ∉ s.toList)
    (hlast : s.toList.getLast? ≠ some '\r') : lines (s ++ "\n") = [s] := by
  have hline : lineChars (s ++ "\n").toList = [s.toList] := by
    rw [String.toList_append]
    exact lineChars_newline_of_not_mem h hlast
  rw [lines, hline, List.map_singleton, String.ofList_toList]

theorem lines_ne_nil {s : String} (h : s ≠ "") : lines s ≠ [] := by
  have hne : s.toList ≠ [] := by simpa using h
  simpa [lines] using lineChars_ne_nil hne

theorem lines_of_not_mem {s : String} (hne : s ≠ "") (h : '\n' ∉ s.toList) : lines s = [s] := by
  have hne : s.toList ≠ [] := by simpa using hne
  rw [lines, lineChars_of_not_mem hne h, List.map_singleton, String.ofList_toList]

theorem mem_of_mem_lines {s l : String} {c : Char} (h : l ∈ lines s) (hc : c ∈ l.toList) :
    c ∈ s.toList ∧ c ≠ '\n' := by
  obtain ⟨cs, hcs, rfl⟩ := List.mem_map.mp h
  rw [String.toList_ofList] at hc
  exact mem_of_mem_lineChars hcs hc

theorem not_mem_of_mem_lines {s l : String} (h : l ∈ lines s) : '\n' ∉ l.toList := by
  intro hc
  exact (mem_of_mem_lines h hc).2 rfl

/-! ### Texts that are put together -/

theorem intercalate_empty_cons (a : String) (as : List String) :
    "".intercalate (a :: as) = a ++ "".intercalate as := by
  cases as with
  | nil => simp
  | cons b bs => simp [String.intercalate_cons_of_ne_nil]

theorem intercalate_concat (sep last : String) {parts : List String} (h : parts ≠ []) :
    sep.intercalate (parts ++ [last]) = sep.intercalate parts ++ sep ++ last := by
  induction parts with
  | nil => exact absurd rfl h
  | cons p parts ih =>
    by_cases hparts : parts = []
    · subst hparts
      simp [String.intercalate_cons_of_ne_nil]
    · rw [List.cons_append, String.intercalate_cons_of_ne_nil (by simp), ih hparts,
        String.intercalate_cons_of_ne_nil hparts]
      simp only [String.append_assoc]

theorem not_mem_intercalate {c : Char} {sep : String} (hsep : c ∉ sep.toList) {parts : List String}
    (hparts : ∀ p ∈ parts, c ∉ p.toList) : c ∉ (sep.intercalate parts).toList := by
  induction parts with
  | nil => simp
  | cons p parts ih =>
    obtain ⟨hp, hrest⟩ := List.forall_mem_cons.mp hparts
    by_cases hnil : parts = []
    · subst hnil
      simpa using hp
    · rw [String.intercalate_cons_of_ne_nil hnil]
      simp only [String.toList_append, List.mem_append, not_or]
      exact ⟨⟨hp, hsep⟩, ih hrest⟩

theorem not_mem_toString {c : Char} (hc : c.isDigit = false) (n : Nat) : c ∉ (toString n).toList := by
  intro hmem
  rw [Nat.toString_eq_repr, Nat.toList_repr] at hmem
  have hdigit := Nat.isDigit_of_mem_toDigits (by decide) (by decide) hmem
  rw [hc] at hdigit
  cases hdigit

end TemplateLint.Text
