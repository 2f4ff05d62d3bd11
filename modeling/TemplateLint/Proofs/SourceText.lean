import Mathlib.Data.List.DropRight
import TemplateLint.Lint.Engine
import TemplateLint.Proofs.Slices
import TemplateLint.Proofs.TextLines

/-!
# The text that a source was made from

A source keeps the lines of a text and forgets how they ended. So it is the same for both kinds of line
ends, and as long as there are line feeds only, nothing but the last of them is lost: the lines with line
feeds between them are the text up to a line feed at its very end.

* `lineChars_crlf`: with carriage returns before all its line feeds a text has the lines that it had.
* `joined_lineChars`: what the lines say about the text.
* `offsetIn_lineAt`: the position of an offset leads back to the offset.
* `slice_verbatim_iff`: which slices between the positions of two offsets are the text between the offsets.
* `line_ends_alike`: the two kinds of line ends cannot be told apart.
-/

namespace TemplateLint

namespace Text

/-! ### Line ends -/

/-- A text with a carriage return before every line feed. -/
def crlfChars (cs : List Char) : List Char := cs.flatMap fun c => if c = '\n' then ['\r', '\n'] else [c]

def crlf (s : String) : String := String.ofList (crlfChars s.toList)

theorem crlfChars_newline (cs : List Char) :
    crlfChars ('\n' :: cs) = '\r' :: '\n' :: crlfChars cs := rfl

theorem crlfChars_cons {c : Char} (hc : c ≠ '\n') (cs : List Char) :
    crlfChars (c :: cs) = c :: crlfChars cs := by
  simp [crlfChars, hc]

/-- A character that does not take part in a line end goes to the front of the first line. -/
theorem lineChars_cons_of_ne {c : Char} (hc : c ≠ '\n') (hr : c ≠ '\r') (cs : List Char) :
    lineChars (c :: cs) = (c :: (lineChars cs).headD []) :: (lineChars cs).tail := by
  obtain ⟨h, -⟩ | ⟨h, -⟩ | ⟨-, -, heq⟩ := lineChars_cons c cs
  · exact absurd h hc
  · exact absurd h hr
  · exact heq

theorem lineChars_crlf {cs : List Char} (h : '\r' ∉ cs) : lineChars (crlfChars cs) = lineChars cs := by
  induction cs with
  | nil => rfl
  | cons c cs ih =>
    rw [List.mem_cons, not_or] at h
    have ih := ih h.2
    by_cases hc : c = '\n'
    · subst hc
      rw [crlfChars_newline, lineChars, lineChars, ih]
    · have hr : c ≠ '\r' := Ne.symm h.1
      rw [crlfChars_cons hc, lineChars_cons_of_ne hc hr, lineChars_cons_of_ne hc hr, ih]

theorem lines_crlf {s : String} (h : '\r' ∉ s.toList) : lines (crlf s) = lines s := by
  rw [lines, crlf, String.toList_ofList, lineChars_crlf h, lines]

/-! ### The text from its lines -/

/-- The line feed at the very end of a text, if there is one. -/
def lastFeed (cs : List Char) : List Char := if cs.getLast? = some '\n' then ['\n'] else []

theorem lastFeed_cons (c : Char) {cs : List Char} (h : cs ≠ []) : lastFeed (c :: cs) = lastFeed cs := by
  obtain ⟨c', cs', rfl⟩ := List.exists_cons_of_ne_nil h
  rw [lastFeed, lastFeed, List.getLast?_cons_cons]

/-- The lines, with line feeds between them, and the line feed at the end make up the text. -/
theorem joined_lineChars {cs : List Char} (h : '\r' ∉ cs) :
    cs = ['\n'].intercalate (lineChars cs) ++ lastFeed cs := by
  induction cs with
  | nil => rfl
  | cons c cs ih =>
    rw [List.mem_cons, not_or] at h
    by_cases hcs : cs = []
    · subst hcs
      by_cases hc : c = '\n'
      · subst hc
        simp [lineChars, lastFeed]
      · simp [lineChars_cons_of_ne hc (Ne.symm h.1), lineChars, lastFeed, hc]
    · obtain ⟨l, ls, hls⟩ := List.exists_cons_of_ne_nil (lineChars_ne_nil hcs)
      rw [lastFeed_cons c hcs]
      have ih := ih h.2
      by_cases hc : c = '\n'
      · subst hc
        rw [lineChars, List.intercalate_cons_of_ne_nil (lineChars_ne_nil hcs)]
        simpa using ih
      · rw [lineChars_cons_of_ne hc (Ne.symm h.1), hls]
        rw [hls] at ih
        cases ls <;> simpa using ih

/-! ### Positions of offsets -/

/-- The line of an offset: one more than the line feeds before it. -/
def lineAt (cs : List Char) (i : Nat) : Nat := (cs.take i).count '\n' + 1

/-- The column of an offset: the characters since the last line feed before it. -/
def columnAt (cs : List Char) (i : Nat) : Nat := ((cs.take i).rtakeWhile (· ≠ '\n')).length

theorem lineAt_mono (cs : List Char) {i j : Nat} (hij : i ≤ j) : lineAt cs i ≤ lineAt cs j :=
  Nat.succ_le_succ ((List.take_prefix_take_left hij).sublist.count_le _)

section Front

variable {l : List Char}

theorem take_append_newline (rest : List Char) (k : Nat) :
    (l ++ '\n' :: rest).take (l.length + 1 + k) = l ++ '\n' :: rest.take k := by
  rw [Nat.add_assoc, List.take_length_add_append, Nat.add_comm 1, List.take_succ_cons]

theorem lineAt_of_le (hl : '\n' ∉ l) (rest : List Char) {i : Nat} (hi : i ≤ l.length) :
    lineAt (l ++ rest) i = 1 := by
  have hnone : (l.take i).count '\n' = 0 := by
    rw [List.count_eq_zero]
    exact fun hmem => hl (List.mem_of_mem_take hmem)
  rw [lineAt, List.take_append_of_le_length hi, hnone]

theorem columnAt_of_le (hl : '\n' ∉ l) (rest : List Char) {i : Nat} (hi : i ≤ l.length) :
    columnAt (l ++ rest) i = i := by
  have hall : (l.take i).rtakeWhile (· ≠ '\n') = l.take i := by
    rw [List.rtakeWhile_eq_self_iff]
    intro c hc
    simpa using ne_of_mem_of_not_mem (List.mem_of_mem_take hc) hl
  rw [columnAt, List.take_append_of_le_length hi, hall, List.length_take, Nat.min_eq_left hi]

theorem lineAt_append (hl : '\n' ∉ l) (rest : List Char) (k : Nat) :
    lineAt (l ++ '\n' :: rest) (l.length + 1 + k) = lineAt rest k + 1 := by
  rw [lineAt, lineAt, take_append_newline, List.count_append, List.count_eq_zero.mpr hl,
    List.count_cons_self, Nat.zero_add]

theorem columnAt_append (rest : List Char) (k : Nat) :
    columnAt (l ++ '\n' :: rest) (l.length + 1 + k) = columnAt rest k := by
  -- read from the end, the search stops at this line feed, if not before
  have hstop : ('\n' :: l.reverse).takeWhile (· ≠ '\n') = [] := by simp
  rw [columnAt, columnAt, take_append_newline, List.rtakeWhile, List.rtakeWhile, List.reverse_append,
    List.reverse_cons, List.append_assoc, List.singleton_append, List.takeWhile_append, hstop,
    List.append_nil]
  split
  · next h => rw [(List.takeWhile_prefix _).eq_of_length h]
  · rfl

end Front

end Text

/-- The position is that of an offset in a text. -/
structure Position.IsAt (p : Position) (text : String) (i : Nat) : Prop where
  line : p.line.toNat = Text.lineAt text.toList i
  column : p.column.toNat = Text.columnAt text.toList i

namespace Source

/-! ### What a source says about its text -/

theorem toList_text_ofText (text : String) :
    (ofText text).text.toList = ['\n'].intercalate (Text.lineChars text.toList) := by
  simp [Source.text, ofText, Text.lines, String.toList_intercalate, List.map_map, Function.comp_def]

theorem toList_eq_text_ofText {text : String} (h : '\r' ∉ text.toList) :
    text.toList = (ofText text).text.toList ++ Text.lastFeed text.toList := by
  rw [toList_text_ofText]
  exact Text.joined_lineChars h

theorem lines_ofText_ne_nil {text : String} (h : text ≠ "") : (ofText text).lines ≠ [] :=
  Text.lines_ne_nil h

/-- The position of an offset is on one of the lines, and leads back to the offset. -/
theorem offsetIn_lineAt {ls : List String} (hne : ls ≠ []) (hls : ∀ l ∈ ls, '\n' ∉ l.toList) {i : Nat}
    (hi : i ≤ (Source.text ⟨ls⟩).toList.length) :
    Text.lineAt (Source.text ⟨ls⟩).toList i ≤ ls.length ∧
      offsetIn ls (Text.lineAt (Source.text ⟨ls⟩).toList i) (Text.columnAt (Source.text ⟨ls⟩).toList i) =
        i := by
  -- the offset is on the first line, or it lies behind the first line feed in the text of the other lines
  induction ls generalizing i with
  | nil => exact absurd rfl hne
  | cons l ls ih =>
    obtain ⟨hl, hls⟩ := List.forall_mem_cons.mp hls
    have hfirst : ∀ rest, i ≤ l.toList.length →
        Text.lineAt (l.toList ++ rest) i ≤ (l :: ls).length ∧
          offsetIn (l :: ls) (Text.lineAt (l.toList ++ rest) i) (Text.columnAt (l.toList ++ rest) i) =
            i := by
      intro rest hle
      rw [Text.lineAt_of_le hl rest hle, Text.columnAt_of_le hl rest hle, offsetIn_one]
      rw [String.length_toList] at hle
      exact ⟨Nat.succ_le_succ (Nat.zero_le _), Nat.min_eq_left hle⟩
    by_cases hmore : ls = []
    · subst hmore
      rw [toList_text_singleton] at hi ⊢
      have hone := hfirst [] hi
      rwa [List.append_nil] at hone
    · rw [toList_text_cons l hmore] at hi ⊢
      rcases Nat.lt_or_ge l.toList.length i with hlt | hle
      · obtain ⟨k, rfl⟩ := Nat.exists_eq_add_of_lt hlt
        have hk : k ≤ (Source.text ⟨ls⟩).toList.length := by
          rw [List.length_append, List.length_cons] at hi
          omega
        obtain ⟨hline, hoffset⟩ := ih hmore hls hk
        rw [Nat.add_right_comm, Text.lineAt_append hl, Text.columnAt_append]
        refine ⟨Nat.succ_le_succ hline, ?_⟩
        have hcons := offsetIn_cons l ls (((Source.text ⟨ls⟩).toList.take k).count '\n')
          (Text.columnAt (Source.text ⟨ls⟩).toList k)
        rw [Text.lineAt] at hoffset ⊢
        rw [hcons, hoffset, String.length_toList]
      · exact hfirst _ hle

/-! ### Slices between offsets -/

section Verbatim

variable {text : String} {i j : Nat} {p q : Position}

/-- Up to the end of the last line, positions of offsets can be taken for the lines. -/
theorem offset_of_isAt (hcr : '\r' ∉ text.toList) (hne : text ≠ "")
    (hi : i ≤ (ofText text).text.toList.length) (hp : p.IsAt text i) :
    p.line.toNat ≤ (ofText text).lines.length ∧ (ofText text).offset p = i := by
  have htake : text.toList.take i = (ofText text).text.toList.take i := by
    conv_lhs => rw [toList_eq_text_ofText hcr]
    exact List.take_append_of_le_length hi
  have hline : p.line.toNat = Text.lineAt (ofText text).text.toList i := by
    rw [hp.line, Text.lineAt, htake, Text.lineAt]
  have hcolumn : p.column.toNat = Text.columnAt (ofText text).text.toList i := by
    rw [hp.column, Text.columnAt, htake, Text.columnAt]
  rw [offset, hline, hcolumn]
  exact offsetIn_lineAt (lines_ofText_ne_nil hne) (fun l hl => Text.not_mem_of_mem_lines hl) hi

/-- Only behind a line feed at its end the text has an offset that its lines do not have. -/
theorem le_length_text (hcr : '\r' ∉ text.toList) (hj : j ≤ text.length)
    (hend : ¬ (j = text.length ∧ text.toList.getLast? = some '\n')) :
    j ≤ (ofText text).text.toList.length := by
  have hlen := congrArg List.length (toList_eq_text_ofText hcr)
  rw [List.length_append, String.length_toList, Text.lastFeed] at hlen
  split at hlen
  · next hlast =>
    have hne : j ≠ text.length := fun h => hend ⟨h, hlast⟩
    rw [List.length_singleton] at hlen
    omega
  · rw [List.length_nil] at hlen
    omega

theorem slice_of_isAt (hcr : '\r' ∉ text.toList) (hij : i ≤ j) (hj : j ≤ text.length)
    (hend : ¬ (j = text.length ∧ text.toList.getLast? = some '\n')) (hp : p.IsAt text i)
    (hq : q.IsAt text j) :
    (ofText text).slice ⟨p, q⟩ = String.ofList ((text.toList.take j).drop i) := by
  by_cases hne : text = ""
  · subst hne
    simp [Source.slice, ofText, Text.lines, Text.lineChars, between]
  have hle := le_length_text hcr hj hend
  obtain ⟨-, hstart⟩ := offset_of_isAt hcr hne (hij.trans hle) hp
  obtain ⟨hlines, hstop⟩ := offset_of_isAt hcr hne hle hq
  have hinside : ¬ (ofText text).IsOutside ⟨p, q⟩ := by
    have hpos : 0 < p.line.toNat := hp.line ▸ Nat.succ_pos _
    have hlater : p.line.toNat ≤ q.line.toNat := by
      rw [hp.line, hq.line]
      exact Text.lineAt_mono _ hij
    rw [isOutside_iff]
    show ¬ (p.line.toNat = 0 ∨ q.line.toNat < p.line.toNat ∨ (ofText text).lines.length < q.line.toNat)
    omega
  have htake : (ofText text).text.toList.take j = text.toList.take j := by
    conv_rhs => rw [toList_eq_text_ofText hcr]
    exact (List.take_append_of_le_length hle).symm
  rw [← String.toList_inj, String.toList_ofList, toList_slice_of_not_isOutside hinside, hstart, hstop,
    ← List.drop_take, htake]

/-- A slice up to the end of a text is empty when a line feed stands before that end. -/
theorem slice_of_isAt_length (hlast : text.toList.getLast? = some '\n') (hq : q.IsAt text text.length) :
    (ofText text).slice ⟨p, q⟩ = "" := by
  obtain ⟨before, hbefore⟩ := List.getLast?_eq_some_iff.mp hlast
  have htext : text = String.ofList before ++ "\n" := by
    rw [← String.toList_inj, hbefore]
    simp
  have hlines : (ofText text).lines.length = before.count '\n' + 1 := by
    rw [htext, ofText, Text.length_lines_newline, String.toList_ofList]
  have hline : q.line.toNat = before.count '\n' + 2 := by
    rw [hq.line, Text.lineAt, ← String.length_toList, List.take_length, hbefore, List.count_append]
    rfl
  apply slice_of_isOutside
  rw [isOutside_iff]
  right
  right
  show (ofText text).lines.length < q.line.toNat
  omega

/-- **A slice between the positions of two offsets is the text between the offsets, unless it goes up to the
end of a text that ends with a line feed.** The end of such a text is on a line of its own, which is not one
of the lines that are kept, so that nothing is quoted there. -/
theorem slice_verbatim_iff (hcr : '\r' ∉ text.toList) (hij : i ≤ j) (hj : j ≤ text.length)
    (hp : p.IsAt text i) (hq : q.IsAt text j) :
    ((ofText text).slice ⟨p, q⟩ = String.ofList ((text.toList.take j).drop i) ↔
      i = j ∨ ¬ (j = text.length ∧ text.toList.getLast? = some '\n')) ∧
    (j = text.length → text.toList.getLast? = some '\n' → (ofText text).slice ⟨p, q⟩ = "") := by
  have hempty : j = text.length → text.toList.getLast? = some '\n' → (ofText text).slice ⟨p, q⟩ = "" := by
    rintro rfl hlast
    exact slice_of_isAt_length hlast hq
  refine ⟨?_, hempty⟩
  by_cases hend : j = text.length ∧ text.toList.getLast? = some '\n'
  · -- nothing is quoted, which is right only if there is nothing to quote
    have hnil : (text.toList.take j).drop i = [] ↔ i = j := by
      rw [List.drop_eq_nil_iff, List.length_take, String.length_toList]
      omega
    rw [hempty hend.1 hend.2, ← hnil, or_iff_left (not_not.mpr hend), eq_comm, String.ofList_eq_empty_iff]
  · exact iff_of_true (slice_of_isAt hcr hij hj hend hp hq) (Or.inr hend)

end Verbatim

theorem slice_verbatim_iff_blankLine :
    let text := "é\n\nb\n"
    '\r' ∉ text.toList ∧ 1 ≤ 4 ∧ 4 ≤ text.length ∧
    Position.IsAt ⟨1, 1⟩ text 1 ∧ Position.IsAt ⟨3, 1⟩ text 4 ∧
    (((ofText text).slice ⟨⟨1, 1⟩, ⟨3, 1⟩⟩ = String.ofList ((text.toList.take 4).drop 1) ↔
        1 = 4 ∨ ¬ (4 = text.length ∧ text.toList.getLast? = some '\n')) ∧
      (4 = text.length → text.toList.getLast? = some '\n' →
        (ofText text).slice ⟨⟨1, 1⟩, ⟨3, 1⟩⟩ = "")) ∧
    (ofText text).slice ⟨⟨1, 1⟩, ⟨3, 1⟩⟩ = "\n\nb" :=
  ⟨by decide, by decide, by decide, ⟨by decide, by decide⟩, ⟨by decide, by decide⟩,
    slice_verbatim_iff (i := 1) (j := 4) (by decide) (by decide) (by decide) ⟨by decide, by decide⟩
      ⟨by decide, by decide⟩, by decide +kernel⟩

/-- The positions of both ends of a text with a line feed at its end, and an empty slice between them. -/
theorem slice_wholeText :
    let text := "\x7b\x7bx\x7d\x7d\n"
    '\r' ∉ text.toList ∧ Position.IsAt ⟨1, 0⟩ text 0 ∧ Position.IsAt ⟨2, 0⟩ text text.length ∧
    (ofText text).slice ⟨⟨1, 0⟩, ⟨2, 0⟩⟩ = "" ∧
    String.ofList ((text.toList.take text.length).drop 0) = text ∧
    (ofText text).slice ⟨⟨1, 0⟩, ⟨2, 0⟩⟩ ≠ text :=
  ⟨by decide, ⟨by decide, by decide⟩, ⟨by decide, by decide⟩, by decide +kernel, by decide +kernel,
    by decide +kernel⟩

/-! ### Both kinds of line ends -/

theorem ofText_crlf {text : String} (hcr : '\r' ∉ text.toList) :
    ofText (Text.crlf text) = ofText text := by
  rw [ofText, Text.lines_crlf hcr, ofText]

/-- **Line ends make no difference.** A text with line feeds only and the same text with a carriage return
before every line feed have the same slices, so that every engine reports the same for them. -/
theorem line_ends_alike {text : String} (hcr : '\r' ∉ text.toList) :
    (∀ span, (ofText (Text.crlf text)).slice span = (ofText text).slice span) ∧
    ∀ (e : Engine) (t : Template) (file : String),
      e.lintTemplate t (ofText (Text.crlf text)) file = e.lintTemplate t (ofText text) file := by
  have hsource := ofText_crlf hcr
  constructor
  · intro span
    rw [hsource]
  · intro e t file
    rw [hsource]

/-- A header with an action that goes over two lines. -/
def twoLineAction : Template :=
  ⟨[.mustache ⟨.path "header-main" {}, [],
    ⟨[⟨"close", .string "a\nb" {}, ⟨⟨1, 14⟩, ⟨2, 2⟩⟩⟩], {}⟩, {}⟩], {}⟩

theorem line_ends_alike_twoLineAction :
    let text := "\x7b\x7bheader-main close=\"a\nb\"\x7d\x7d\n"
    '\r' ∉ text.toList ∧ '\r' ∈ (Text.crlf text).toList ∧
    ((∀ span, (ofText (Text.crlf text)).slice span = (ofText text).slice span) ∧
      ∀ (e : Engine) (t : Template) (file : String),
        e.lintTemplate t (ofText (Text.crlf text)) file = e.lintTemplate t (ofText text) file) ∧
    ((Engine.mk {} [Header.rule true]).lintTemplate twoLineAction (ofText (Text.crlf text)) "x.hbs").map
      Diagnostic.message = ["Use of actions as Strings should be avoided. You used close=\"a\nb\"."] :=
  ⟨by decide, by decide, line_ends_alike (by decide), by decide +kernel⟩

end Source

end TemplateLint
