import TemplateLint.Report.Text
import TemplateLint.Proofs.SourceText

/-!
# The layout of a snippet

Below its headline a diagnostic shows the lines that it is about. Every row of this block has a bar. Before
the bar is a gutter, which holds the number of a line or nothing, and behind it is what the row shows.

* `snippet_eq`: without colours the block is made of the rows in `rows`.
* `isAligned_rows_iff`: the bars of the rows stand in one column as long as the numbers have four digits.
* `underlines_iff`: carets stand under a text when as many characters are before them as before the text.
* `snippet_aligned_iff`: the block of a diagnostic.

A number is brought to four characters with blanks, and longer numbers are not cut, while the gutters without
a number have a fixed width. So a number of five digits moves its bar to the right.

Lines are counted in words of 64 bits (`lineNumber`). Behind the largest word the numbers start again at zero,
and what is shown then is not the number of the line.
-/

namespace TemplateLint

/-! ### Blanks and numbers -/

namespace Text

/-- A text of blanks, or the empty text. -/
def IsBlank (s : String) : Prop := ∀ c ∈ s.toList, c = ' '

instance (s : String) : Decidable (IsBlank s) := List.decidableBAll (· = ' ') s.toList

/-- Rows one after the other, each with a line feed at its end. -/
def ended : List String → String
  | [] => ""
  | row :: rows => row ++ "\n" ++ ended rows

theorem ended_cons (row : String) (rows : List String) : ended (row :: rows) = row ++ "\n" ++ ended rows := rfl

theorem ended_append (as bs : List String) : ended (as ++ bs) = ended as ++ ended bs := by
  induction as with
  | nil => simp [ended]
  | cons a as ih => simp only [List.cons_append, ended_cons, ih, String.append_assoc]

theorem isBlank_replicate (k : Nat) : IsBlank (String.ofList (List.replicate k ' ')) := by
  intro c hc
  rw [String.toList_ofList] at hc
  exact List.eq_of_mem_replicate hc

theorem exists_padLeft_eq (width : Nat) (s : String) :
    ∃ margin, IsBlank margin ∧ padLeft width s = margin ++ s :=
  ⟨_, isBlank_replicate (width - s.length), rfl⟩

theorem length_padLeft (width : Nat) (s : String) : (padLeft width s).length = max width s.length := by
  rw [padLeft, String.length_append, String.length_ofList, List.length_replicate]
  omega

/-- Four characters are enough for the numbers below ten thousand, and for no others. -/
theorem length_padLeft_number_eq_iff (n : Nat) : (padLeft 4 (toString n)).length = 4 ↔ n < 10000 := by
  have hdigits : (toString n).length ≤ 4 ↔ n < 10000 := by
    rw [Nat.toString_eq_repr]
    exact Nat.length_repr_le_iff (by decide)
  rw [length_padLeft, ← hdigits]
  omega

/-- What the lines of a text without carriage returns are: none of them holds a line feed, and with line feeds
between them they make up the text, up to a line feed at its very end. -/
structure HasLines (s : String) (lines : List String) : Prop where
  ne_nil : lines ≠ []
  newline_not_mem : ∀ line ∈ lines, '\n' ∉ line.toList
  joined : s = "\n".intercalate lines ++ String.ofList (lastFeed s.toList)

theorem hasLines_lines {s : String} (hne : s ≠ "") (h : '\r' ∉ s.toList) : HasLines s (lines s) := by
  refine ⟨lines_ne_nil hne, fun line hline => not_mem_of_mem_lines hline, ?_⟩
  have hjoined := joined_lineChars h
  rw [← String.toList_inj]
  simpa [lines, String.toList_intercalate, List.map_map, Function.comp_def] using hjoined

end Text

namespace TextFormat

/-! ### Columns -/

/-- The column of the first bar in a row. -/
def barColumn? (row : String) : Option Nat := row.toList.idxOf? '|'

/-- Every row has a bar, and the first bars of all rows stand in one column. -/
def IsAligned (rows : List String) : Prop := ∃ column, ∀ row ∈ rows, barColumn? row = some column

/-- The row ends with the text, and the carets are in the columns of the text's characters and nowhere
else. -/
def Underlines (carets row text : String) : Prop :=
  ∃ front, row = front ++ text ∧
    ∀ i, carets.toList[i]? = some '^' ↔ front.length ≤ i ∧ i < row.length

theorem getElem?_append_carets_iff {lead : List Char} (h : '^' ∉ lead) (k i : Nat) :
    (lead ++ List.replicate k '^')[i]? = some '^' ↔ lead.length ≤ i ∧ i < lead.length + k := by
  rcases Nat.lt_or_ge i lead.length with hi | hi
  · rw [List.getElem?_append_left hi]
    constructor
    · intro hc
      exact absurd (List.mem_of_getElem? hc) h
    · omega
  · rw [List.getElem?_append_right hi, List.getElem?_replicate]
    simp only [ite_eq_left_iff, reduceCtorEq, imp_false, not_not]
    omega

/-- Carets, one for each character of a text, stand under it when the text starts where they start. -/
theorem underlines_iff {lead front text : String} (hlead : '^' ∉ lead.toList) (hne : text ≠ "") :
    Underlines (lead ++ String.ofList (List.replicate text.length '^')) (front ++ text) text ↔
      lead.length = front.length := by
  have hpos : 0 < text.length := Nat.pos_of_ne_zero (by simpa using hne)
  have hcarets := getElem?_append_carets_iff hlead text.length
  simp only [Underlines, String.toList_append, String.toList_ofList, hcarets, String.length_append,
    String.length_toList]
  constructor
  · rintro ⟨front', heq, hcolumns⟩
    have hfront := congrArg String.length heq
    rw [String.length_append, String.length_append] at hfront
    -- the first caret and the first character of the text
    have hfirst := hcolumns lead.length
    have hfirst' := hcolumns front.length
    omega
  · intro hlength
    refine ⟨front, rfl, ?_⟩
    intro i
    omega

/-! ### Rows -/

/-- A row of a snippet: what stands before its bar and what stands behind it. -/
structure Row where
  gutter : String
  shown : String

namespace Row

def text (r : Row) : String := r.gutter ++ "|" ++ r.shown

theorem toList_text (r : Row) : r.text.toList = r.gutter.toList ++ '|' :: r.shown.toList := by
  simp [text]

theorem text_mk_blank (gutter text : String) : (mk gutter (" " ++ text)).text = gutter ++ "| " ++ text := by
  rw [← String.toList_inj]
  simp [Row.text]

theorem barColumn?_text {r : Row} (h : '|' ∉ r.gutter.toList) : barColumn? r.text = some r.gutter.length := by
  rw [barColumn?, toList_text, ← String.length_toList, List.idxOf?_eq_some_iff]
  refine ⟨by simp, by simp, ?_⟩
  intro j hj hbar
  rw [List.getElem_append_left hj] at hbar
  exact h (hbar ▸ List.getElem_mem hj)

end Row

/-- Rows are aligned when all gutters are as wide as one of them. -/
theorem isAligned_iff {rs : List Row} (h : ∀ s ∈ rs, '|' ∉ s.gutter.toList) {r : Row} (hr : r ∈ rs) :
    IsAligned (rs.map Row.text) ↔ ∀ s ∈ rs, s.gutter.length = r.gutter.length := by
  have hcolumn : ∀ s ∈ rs, barColumn? s.text = some s.gutter.length :=
    fun s hs => Row.barColumn?_text (h s hs)
  constructor
  · rintro ⟨column, hrows⟩ s hs
    have hwidth : ∀ s ∈ rs, s.gutter.length = column := by
      intro s hs
      have hrow := hrows s.text (List.mem_map_of_mem hs)
      rw [hcolumn s hs] at hrow
      exact Option.some.inj hrow
    rw [hwidth s hs, hwidth r hr]
  · intro hwidth
    refine ⟨r.gutter.length, ?_⟩
    intro row hrow
    obtain ⟨s, hs, rfl⟩ := List.mem_map.mp hrow
    rw [hcolumn s hs, hwidth s hs]

/-! ### The rows of a snippet -/

def openingRow : Row := ⟨"     ", ""⟩

def numberedRow (number : Nat) (line : String) : Row := ⟨Text.padLeft 4 (toString number) ++ " ", " " ++ line⟩

def caretRow (source : String) : Row :=
  ⟨"     ", " " ++ String.ofList (List.replicate source.length '^')⟩

/-- The number that is shown for the line `k` lines further on. -/
def lineNumber (first : UInt64) (k : Nat) : Nat := (first.toNat + k) % 18446744073709551616

/-- The rows for lines, the first of which has a number. -/
def numberedRows (number : UInt64) (lines : List String) : List Row :=
  lines.mapIdx fun k line => numberedRow (lineNumber number k) line

/-- The rows for a diagnostic that has a source. -/
def rows (d : Diagnostic) : List Row :=
  openingRow :: (numberedRows d.location.line (Text.lines d.source) ++
    if '\n' ∈ d.source.toList then [] else [caretRow d.source])

theorem lineNumber_of_lt {first : UInt64} {k : Nat} (h : first.toNat + k < 18446744073709551616) :
    lineNumber first k = first.toNat + k :=
  Nat.mod_eq_of_lt h

theorem lineNumber_zero (first : UInt64) : lineNumber first 0 = first.toNat :=
  lineNumber_of_lt first.toNat_lt

theorem lineNumber_succ (first : UInt64) (k : Nat) : lineNumber first (k + 1) = lineNumber (first + 1) k := by
  have hnext : (first + 1).toNat = (first.toNat + 1) % 18446744073709551616 := UInt64.toNat_add first 1
  rw [lineNumber, lineNumber, hnext]
  omega

theorem numberedRows_cons (number : UInt64) (line : String) (lines : List String) :
    numberedRows number (line :: lines) =
      numberedRow number.toNat line :: numberedRows (number + 1) lines := by
  simp only [numberedRows, List.mapIdx_cons, lineNumber_zero, lineNumber_succ]

theorem getElem?_numberedRows (number : UInt64) (lines : List String) (k : Nat) :
    (numberedRows number lines)[k]? = lines[k]?.map (numberedRow (lineNumber number k)) :=
  List.getElem?_mapIdx

/-- The numbers of all lines have at most four digits if the number of the last one has. -/
theorem forall_lineNumber_lt_iff (first : UInt64) {count : Nat} (hpos : 0 < count) :
    (∀ k, k < count → lineNumber first k < 10000) ↔ first.toNat + count ≤ 10000 := by
  constructor
  · intro hnumbers
    have hfirst := hnumbers 0 hpos
    rw [lineNumber_zero] at hfirst
    -- if there were more lines, then the one with number 10000 would be among them
    apply Nat.le_of_not_lt
    intro hmore
    have hten := hnumbers (10000 - first.toNat) (by omega)
    rw [lineNumber_of_lt (by omega)] at hten
    omega
  · intro hle k hk
    rw [lineNumber_of_lt (by omega)]
    omega

section Rows

variable {d : Diagnostic}

theorem forall_mem_rows_iff {p : Row → Prop} :
    (∀ r ∈ rows d, p r) ↔ p openingRow ∧
      (∀ k line, (Text.lines d.source)[k]? = some line →
        p (numberedRow (lineNumber d.location.line k) line)) ∧
      ('\n' ∉ d.source.toList → p (caretRow d.source)) := by
  have hnumbered : (∀ r ∈ numberedRows d.location.line (Text.lines d.source), p r) ↔
      ∀ k line, (Text.lines d.source)[k]? = some line →
        p (numberedRow (lineNumber d.location.line k) line) := by
    simp only [List.mem_iff_getElem?, getElem?_numberedRows, Option.map_eq_some_iff]
    constructor
    · intro h k line hline
      exact h _ ⟨k, line, hline, rfl⟩
    · rintro h _ ⟨k, line, hline, rfl⟩
      exact h k line hline
  have hcarets : (∀ r ∈ (if '\n' ∈ d.source.toList then [] else [caretRow d.source]), p r) ↔
      ('\n' ∉ d.source.toList → p (caretRow d.source)) := by
    split
    · next h => simp [h]
    · next h => simp [h]
  rw [rows, List.forall_mem_cons, List.forall_mem_append, hnumbered, hcarets]

/-- A gutter with a number is as wide as one without when the number has at most four digits. -/
theorem length_gutter_numberedRow_iff (number : Nat) (line : String) :
    (numberedRow number line).gutter.length = openingRow.gutter.length ↔ number < 10000 := by
  have hopening : openingRow.gutter.length = 5 := rfl
  have hblank : " ".length = 1 := rfl
  rw [← Text.length_padLeft_number_eq_iff, hopening, numberedRow, String.length_append, hblank]
  omega

theorem not_mem_gutter_numberedRow {c : Char} (hdigit : c.isDigit = false) (hblank : c ≠ ' ') (number : Nat)
    (line : String) : c ∉ (numberedRow number line).gutter.toList := by
  have hnumber := Text.not_mem_toString hdigit number
  rw [numberedRow, Text.padLeft]
  simp only [String.toList_append, String.toList_ofList, List.mem_append, List.mem_replicate, not_or]
  refine ⟨⟨fun h => hblank h.2, hnumber⟩, ?_⟩
  simpa using hblank

theorem bar_not_mem_gutter : ∀ r ∈ rows d, '|' ∉ r.gutter.toList := by
  rw [forall_mem_rows_iff]
  have hopening : '|' ∉ openingRow.gutter.toList := by decide
  refine ⟨hopening, ?_, fun _ => hopening⟩
  intro k line _
  exact not_mem_gutter_numberedRow (by decide) (by decide) _ line

theorem newline_not_mem_text : ∀ r ∈ rows d, '\n' ∉ r.text.toList := by
  have hrow : ∀ r : Row, '\n' ∉ r.gutter.toList → '\n' ∉ r.shown.toList → '\n' ∉ r.text.toList := by
    intro r hgutter hshown
    rw [Row.toList_text, List.mem_append, List.mem_cons, not_or, not_or]
    exact ⟨hgutter, by decide, hshown⟩
  rw [forall_mem_rows_iff]
  refine ⟨by decide, ?_, ?_⟩
  · intro k line hline
    have hnone := Text.not_mem_of_mem_lines (List.mem_of_getElem? hline)
    apply hrow
    · exact not_mem_gutter_numberedRow (by decide) (by decide) _ line
    · simpa [numberedRow] using hnone
  · intro _
    apply hrow
    · exact show '\n' ∉ openingRow.gutter.toList by decide
    · simp [caretRow]

/-- The bars stand in one column as long as the last number has at most four digits. -/
theorem isAligned_rows_iff (hne : d.source ≠ "") :
    IsAligned ((rows d).map Row.text) ↔
      d.location.line.toNat + (Text.lines d.source).length ≤ 10000 := by
  have hlines := List.length_pos_iff.mpr (Text.lines_ne_nil hne)
  rw [isAligned_iff bar_not_mem_gutter (r := openingRow) List.mem_cons_self, forall_mem_rows_iff]
  simp only [length_gutter_numberedRow_iff]
  rw [← forall_lineNumber_lt_iff d.location.line hlines]
  constructor
  · rintro ⟨-, hnumbers, -⟩ k hk
    exact hnumbers k _ (List.getElem?_eq_getElem hk)
  · intro hnumbers
    refine ⟨trivial, ?_, fun _ => rfl⟩
    intro k line hline
    exact hnumbers k (List.getElem?_eq_some_iff.mp hline).1

end Rows

section Printing

variable (terminal : Bool) {f : TextFormat} (hplain : f.colored = false)

include hplain

theorem paint_of_not_colored (s : Style) (text : String) : f.paint terminal s text = text := by
  apply paint_of_off
  rw [hplain, Bool.false_and]

theorem numbered_eq (number : UInt64) (lines : List String) :
    f.numbered terminal number lines = Text.ended ((numberedRows number lines).map Row.text) := by
  induction lines generalizing number with
  | nil => rfl
  | cons line lines ih =>
    have hrow : (numberedRow number.toNat line).text =
        Text.padLeft 4 (toString number.toNat) ++ " " ++ "|" ++ " " ++ line := by
      simp only [Row.text, numberedRow, String.append_assoc]
    rw [numbered, ih, numberedRows_cons, List.map_cons, Text.ended_cons, hrow]
    simp only [paint_of_not_colored terminal hplain]

theorem carets_eq {source : String} (hne : source ≠ "") :
    f.carets terminal source = Text.ended [(caretRow source).text] := by
  have hlength : max source.length 1 = source.length := by
    have hpos : source.length ≠ 0 := by simpa using hne
    omega
  simp only [carets, hlength, paint_of_not_colored terminal hplain, Text.ended, Row.text, caretRow,
    String.append_assoc, String.append_empty]

theorem snippet_eq {d : Diagnostic} (hne : d.source ≠ "") :
    f.snippet terminal d = Text.ended ((rows d).map Row.text) := by
  have hopening : openingRow.text = "     " ++ "|" := rfl
  have hcarets : (if '\n' ∈ d.source.toList then "" else f.carets terminal d.source) =
      Text.ended ((if '\n' ∈ d.source.toList then [] else [caretRow d.source]).map Row.text) := by
    split
    · rfl
    · exact carets_eq terminal hplain hne
  rw [snippet, hcarets, numbered_eq terminal hplain, paint_of_not_colored terminal hplain, rows,
    List.map_cons, Text.ended_cons, hopening, List.map_append, Text.ended_append]
  simp only [String.append_assoc]

end Printing

/-! ### The block below a headline -/

/-- The row shows a number, a bar and a line, whatever the margin before the number is. -/
def ShowsLine (number : Nat) (line row : String) : Prop :=
  ∃ margin, Text.IsBlank margin ∧ row = margin ++ toString number ++ " | " ++ line

/-- What the rows of a block show, whatever the margins before the numbers and the bars are. -/
structure Shows (d : Diagnostic) (printed : List String) : Prop where
  length : printed.length = (Text.lines d.source).length + if '\n' ∈ d.source.toList then 1 else 2
  opening : ∃ margin, Text.IsBlank margin ∧ printed.head? = some (margin ++ "|")
  /-- A line has its number, as long as this is a word. -/
  numbered : ∀ k line, (Text.lines d.source)[k]? = some line →
    d.location.line.toNat + k < 18446744073709551616 →
    ∃ row, printed[k + 1]? = some row ∧ ShowsLine (d.location.line.toNat + k) line row
  /-- Behind the largest word the numbers start again at zero. -/
  overflowed : ∀ k line, (Text.lines d.source)[k]? = some line →
    18446744073709551616 ≤ d.location.line.toNat + k →
    ∃ row, printed[k + 1]? = some row ∧
      ShowsLine ((d.location.line.toNat + k) % 18446744073709551616) line row
  carets : '\n' ∉ d.source.toList →
    ∃ margin, Text.IsBlank margin ∧
      printed.getLast? = some (margin ++ "| " ++ String.ofList (List.replicate d.source.length '^'))

theorem text_numberedRow (number : Nat) (line : String) :
    (numberedRow number line).text = Text.padLeft 4 (toString number) ++ " | " ++ line := by
  rw [← String.toList_inj]
  simp [Row.text, numberedRow]

theorem showsLine_numberedRow (number : Nat) (line : String) :
    ShowsLine number line (numberedRow number line).text := by
  obtain ⟨margin, hmargin, hpad⟩ := Text.exists_padLeft_eq 4 (toString number)
  exact ⟨margin, hmargin, by rw [text_numberedRow, hpad]⟩

/-- The row of a line stands behind the opening row and the rows of the lines before. -/
theorem getElem?_rows {d : Diagnostic} {k : Nat} {line : String}
    (hline : (Text.lines d.source)[k]? = some line) :
    ((rows d).map Row.text)[k + 1]? = some (numberedRow (lineNumber d.location.line k) line).text := by
  have hrow := getElem?_numberedRows d.location.line (Text.lines d.source) k
  rw [hline, Option.map_some] at hrow
  have hk := (List.getElem?_eq_some_iff.mp hrow).1
  rw [List.getElem?_map, rows, List.getElem?_cons_succ, List.getElem?_append_left hk, hrow, Option.map_some]

theorem shows_rows (d : Diagnostic) : Shows d ((rows d).map Row.text) where
  length := by
    rw [List.length_map, rows, List.length_cons, List.length_append, numberedRows, List.length_mapIdx]
    split <;> rfl
  opening := ⟨"     ", by decide, rfl⟩
  numbered := by
    intro k line hline hlt
    refine ⟨_, getElem?_rows hline, ?_⟩
    rw [lineNumber_of_lt hlt]
    exact showsLine_numberedRow _ line
  overflowed := by
    intro k line hline _
    exact ⟨_, getElem?_rows hline, showsLine_numberedRow _ line⟩
  carets := by
    intro hfeed
    refine ⟨"     ", by decide, ?_⟩
    rw [rows, if_neg hfeed, ← List.cons_append, List.map_append, List.map_singleton, List.getLast?_concat,
      caretRow, Row.text_mk_blank]

theorem rows_of_not_mem {d : Diagnostic} (hne : d.source ≠ "") (h : '\n' ∉ d.source.toList) :
    rows d = [openingRow, numberedRow d.location.line.toNat d.source, caretRow d.source] := by
  rw [rows, Text.lines_of_not_mem hne h, if_neg h, numberedRows_cons]
  rfl

/-- The carets have the blank gutter before them, so they stand under a line whose gutter is as wide. -/
theorem underlines_rows_iff (number : Nat) {source : String} (hne : source ≠ "") :
    Underlines (caretRow source).text (numberedRow number source).text source ↔ number < 10000 := by
  have hlead : '^' ∉ ("     " ++ "| ").toList := by decide
  rw [caretRow, numberedRow, Row.text_mk_blank, Row.text_mk_blank, underlines_iff hlead hne,
    String.length_append, String.length_append, Nat.add_right_cancel_iff, eq_comm]
  exact length_gutter_numberedRow_iff number source

/-- What is shown of the source stands between the headline and the help. -/
theorem diagnostic_eq_insert (terminal : Bool) {f : TextFormat} (hshown : f.showSource = true) {d : Diagnostic}
    (hne : d.source ≠ "") :
    ∃ help, f.diagnostic terminal d = f.headline terminal d ++ f.snippet terminal d ++ help ∧
      { f with showSource := false }.diagnostic terminal d = f.headline terminal d ++ help := by
  have hwith : (f.showSource && d.source ≠ "") = true := by simp [hshown, hne]
  have hwithout : ¬ ({ f with showSource := false }.showSource && d.source ≠ "") = true := by simp
  -- the help is what the definition leaves behind the snippet
  apply Exists.intro
  constructor
  · rw [diagnostic, if_pos hwith]
  · rw [diagnostic, if_neg hwithout, String.append_empty]
    rfl

/-- **The bars of a snippet stand in one column if and only if its last line has a number of at most four
digits.** For every line and column the block shows the lines of the source with their numbers, which start
again at zero behind the largest word, and as many carets as there are characters when the source is one line.
The carets stand under these characters as long as the number has at most four digits. The block is what
showing the source puts between the headline and the help. -/
theorem snippet_aligned_iff (terminal : Bool) {f : TextFormat} (hplain : f.colored = false)
    (hshown : f.showSource = true) {d : Diagnostic} (hne : d.source ≠ "")
    (hreturn : '\r' ∉ d.source.toList) :
    Text.HasLines d.source (Text.lines d.source) ∧
    ∃ printed help,
      f.diagnostic terminal d = f.headline terminal d ++ Text.ended printed ++ help ∧
      { f with showSource := false }.diagnostic terminal d = f.headline terminal d ++ help ∧
      (∀ row ∈ printed, '\n' ∉ row.toList) ∧ Shows d printed ∧
      (IsAligned printed ↔ d.location.line.toNat + (Text.lines d.source).length ≤ 10000) ∧
      ('\n' ∉ d.source.toList → ∃ opening row carets, printed = [opening, row, carets] ∧
        (Underlines carets row d.source ↔ d.location.line.toNat < 10000)) := by
  obtain ⟨help, hwith, hwithout⟩ := diagnostic_eq_insert terminal hshown hne
  rw [snippet_eq terminal hplain hne] at hwith
  have hnewline : ∀ row ∈ (rows d).map Row.text, '\n' ∉ row.toList := by
    intro row hrow
    obtain ⟨r, hr, rfl⟩ := List.mem_map.mp hrow
    exact newline_not_mem_text r hr
  refine ⟨Text.hasLines_lines hne hreturn, (rows d).map Row.text, help, hwith, hwithout, hnewline,
    shows_rows d, isAligned_rows_iff hne, ?_⟩
  intro hfeed
  have hrows := congrArg (List.map Row.text) (rows_of_not_mem hne hfeed)
  exact ⟨_, _, _, hrows, underlines_rows_iff d.location.line.toNat hne⟩

-- the line behind the largest number
example : numbered true { colored := false } 18446744073709551615 ["x", "y"] =
    "18446744073709551615 | x\n   0 | y\n" := by
  decide +kernel

/-- A diagnostic with help about a source that starts on a line. -/
def diagnosticOnLine (line : UInt64) (source : String) : Diagnostic :=
  ⟨"r", .error, "m", ⟨"a", line, 0⟩, source, some "h"⟩

/-- The last line on which a snippet is aligned. -/
theorem snippet_aligned_iff_fourDigits :
    let f : TextFormat := { colored := false }
    let d := diagnosticOnLine 9999 "é|x"
    f.colored = false ∧ f.showSource = true ∧ d.source ≠ "" ∧ '\r' ∉ d.source.toList ∧
    (∃ opening row carets help,
      f.diagnostic true d = f.headline true d ++ Text.ended [opening, row, carets] ++ help ∧
      IsAligned [opening, row, carets] ∧ Underlines carets row d.source) ∧
    f.diagnostic true d =
      "a:9999:0: error[r]: m\n     |\n9999 | é|x\n     | ^^^\n     = help: h\n" := by
  intro f d
  have hne : d.source ≠ "" := by decide
  have hreturn : '\r' ∉ d.source.toList := by decide
  refine ⟨rfl, rfl, hne, hreturn, ?_, by decide +kernel⟩
  obtain ⟨-, printed, help, hwith, -, -, -, haligned, honeLine⟩ :=
    snippet_aligned_iff true (f := f) rfl rfl hne hreturn
  obtain ⟨opening, row, carets, rfl, hunderlines⟩ := honeLine (by decide)
  exact ⟨opening, row, carets, help, hwith, haligned.mpr (by decide), hunderlines.mpr (by decide)⟩

/-- One line further the number has five digits, and neither the bars nor the carets are in their columns. -/
theorem snippet_unaligned_fiveDigits :
    let d := diagnosticOnLine 10000 "x"
    d.source ≠ "" ∧ '\r' ∉ d.source.toList ∧
    diagnostic true { colored := false } d = headline true { colored := false } d ++
      Text.ended ["     |", "10000 | x", "     | ^"] ++ "     = help: h\n" ∧
    ¬ IsAligned ["     |", "10000 | x", "     | ^"] ∧ ¬ Underlines "     | ^" "10000 | x" d.source := by
  have hrow : (numberedRow 10000 "x").text = "10000 | x" := by decide +kernel
  have hcarets : (caretRow "x").text = "     | ^" := by decide
  refine ⟨by decide, by decide, by decide +kernel, ?_, ?_⟩
  · rintro ⟨column, hrows⟩
    have hopening : barColumn? "     |" = some column := hrows _ (by decide)
    have hnumbered : barColumn? "10000 | x" = some column := hrows _ (by decide)
    exact absurd (hopening.trans hnumbered.symm) (by decide)
  · rw [← hrow, ← hcarets]
    intro h
    exact absurd ((underlines_rows_iff 10000 (by decide)).mp h) (by decide)

end TextFormat

end TemplateLint
