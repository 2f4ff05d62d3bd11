import TemplateLint.Report.Format
import TemplateLint.Proofs.Findings
import TemplateLint.Proofs.Slices
import TemplateLint.Proofs.TextLines

/-!
# The lines of a compact report

The compact report writes one diagnostic after the other and ends each with a line feed. Whether each of
them is one line depends on the messages, and the header rule quotes the template in some of its messages:
an action that is given as a plain text is quoted as it stands there.

* `lines_report_iff`: the diagnostics are the lines of the report when none of them holds a line feed.
* `newline_mem_diagnostic_iff`: place, severity and rule add no line feed to a message.
* `newline_mem_lintTemplate_iff`: of the messages of the header rule, those about plain actions hold the line
  feeds of what they quote, and the others hold none.
* `report_lines_iff`: a compact report of the header rule has one line for each diagnostic if and only if
  every action that it complains about stands on one line of the template.
-/

namespace TemplateLint.CompactFormat

variable (f : CompactFormat)

/-! ### The lines of a report -/

/-- The lines of a report are those of its diagnostics, one after the other. -/
theorem lines_report (r : LintResult) :
    Text.lines (f.report r) = r.diagnostics.flatMap fun d => Text.lines (f.diagnostic d ++ "\n") := by
  rw [report]
  induction r.diagnostics with
  | nil => rfl
  | cons d ds ih =>
    rw [List.map_cons, Text.intercalate_empty_cons, Text.lines_append_newline, ih, List.flatMap_cons]

theorem length_lines_report (r : LintResult) :
    (Text.lines (f.report r)).length =
      r.diagnostics.length + (r.diagnostics.flatMap fun d => (f.diagnostic d).toList).count '\n' := by
  rw [lines_report]
  induction r.diagnostics with
  | nil => rfl
  | cons d ds ih =>
    rw [List.flatMap_cons, List.flatMap_cons, List.length_append, ih, Text.length_lines_newline,
      List.length_cons, List.count_append]
    omega

/-- A report has a line for each diagnostic when no diagnostic holds a line feed. A carriage return at the
end of a diagnostic would be taken for a part of the line's end. -/
theorem lines_report_iff {r : LintResult}
    (hlast : ∀ d ∈ r.diagnostics, (f.diagnostic d).toList.getLast? ≠ some '\r') :
    (Text.lines (f.report r) = r.diagnostics.map f.diagnostic ↔
      ∀ d ∈ r.diagnostics, '\n' ∉ (f.diagnostic d).toList) ∧
    ((Text.lines (f.report r)).length = r.diagnostics.length ↔
      ∀ d ∈ r.diagnostics, '\n' ∉ (f.diagnostic d).toList) := by
  have hlength : (Text.lines (f.report r)).length = r.diagnostics.length ↔
      ∀ d ∈ r.diagnostics, '\n' ∉ (f.diagnostic d).toList := by
    rw [length_lines_report, Nat.add_eq_left, List.count_eq_zero, List.mem_flatMap]
    simp only [not_exists, not_and]
  refine ⟨⟨?_, ?_⟩, hlength⟩
  · intro hlines
    rw [← hlength, hlines, List.length_map]
  · intro hfree
    rw [lines_report, ← List.flatMap_singleton' (r.diagnostics.map f.diagnostic), List.flatMap_map]
    apply List.flatMap_congr
    intro d hd
    exact Text.lines_newline_of_not_mem (hfree d hd) (hlast d hd)

/-! ### What a line holds -/

theorem newline_not_mem_name (s : Severity) : '\n' ∉ s.name.toList := by
  cases s <;> decide

/-- The parts of a line before the message. -/
def front (d : Diagnostic) : List String :=
  [d.location.file ++ ":" ++ toString d.location.line.toNat ++ ":" ++
      toString d.location.column.toNat] ++
    (if f.showSeverity then [d.severity.name] else []) ++ (if f.showRule then [d.rule] else [])

theorem diagnostic_eq (d : Diagnostic) :
    f.diagnostic d = ": ".intercalate (f.front d) ++ ": " ++ d.message := by
  have hne : f.front d ≠ [] := by simp [front]
  exact Text.intercalate_concat ": " d.message hne

/-- Before the message there is no line feed, unless the path or the rule has one. -/
theorem newline_not_mem_front {d : Diagnostic} (hfile : '\n' ∉ d.location.file.toList)
    (hrule : '\n' ∉ d.rule.toList) : ∀ part ∈ f.front d, '\n' ∉ part.toList := by
  intro part hpart
  rw [front, List.append_assoc, List.mem_append, List.mem_append, List.mem_singleton] at hpart
  rcases hpart with rfl | hpart | hpart
  · have hcolon : '\n' ∉ ":".toList := by decide
    have hdigit : '\n'.isDigit = false := by decide
    have hline := Text.not_mem_toString hdigit d.location.line.toNat
    have hcolumn := Text.not_mem_toString hdigit d.location.column.toNat
    simp only [String.toList_append, List.mem_append, not_or]
    exact ⟨⟨⟨⟨hfile, hcolon⟩, hline⟩, hcolon⟩, hcolumn⟩
  · split at hpart
    · rw [List.mem_singleton.mp hpart]
      exact newline_not_mem_name d.severity
    · cases hpart
  · split at hpart
    · rw [List.mem_singleton.mp hpart]
      exact hrule
    · cases hpart

theorem newline_mem_diagnostic_iff {d : Diagnostic} (hfile : '\n' ∉ d.location.file.toList)
    (hrule : '\n' ∉ d.rule.toList) :
    '\n' ∈ (f.diagnostic d).toList ↔ '\n' ∈ d.message.toList := by
  have hsep : '\n' ∉ ": ".toList := by decide
  have hfront := Text.not_mem_intercalate hsep (f.newline_not_mem_front hfile hrule)
  rw [diagnostic_eq, String.toList_append, String.toList_append, List.mem_append, List.mem_append]
  exact or_iff_right (not_or.mpr ⟨hfront, hsep⟩)

theorem getLast?_diagnostic {d : Diagnostic} {c : Char} (h : d.message.toList.getLast? = some c) :
    (f.diagnostic d).toList.getLast? = some c := by
  rw [diagnostic_eq, String.toList_append, List.getLast?_append, h]
  rfl

end TemplateLint.CompactFormat

namespace TemplateLint.Header

/-! ### Line feeds in the messages of the header rule -/

variable {e : Engine} {file : String} {source : Source} {t : Template}

theorem newline_mem_plainAction_iff {a : Argument} :
    '\n' ∈ (plainAction source a).message.toList ↔ '\n' ∈ (source.slice a.loc).toList := by
  have hbefore : '\n' ∉ "Use of actions as Strings should be avoided. You used ".toList := by decide
  have hafter : '\n' ∉ ".".toList := by decide
  rw [message_plainAction, String.toList_append, String.toList_append, List.mem_append, List.mem_append,
    or_iff_right hbefore, or_iff_left hafter]

/-- A message about missing arguments is made of words that the rule knows. -/
theorem newline_not_mem_checkRequirements {v : Invocation} {f : Finding}
    (h : f ∈ checkRequirements source v) : '\n' ∉ f.message.toList := by
  rw [checkRequirements_eq] at h
  obtain ⟨needed, hunmet, rfl⟩ := List.mem_map.mp h
  obtain ⟨hneeded, hop⟩ := Option.filter_eq_some_iff.mp (Option.mem_toList.mp hunmet)
  rw [Bool.and_eq_true] at hop
  obtain ⟨needed', hmem, -, hneeded'⟩ := requirements?_component hop.1
  obtain rfl := Option.some.inj (hneeded.symm.trans hneeded')
  have hwords : ∀ x ∈ operations, '\n' ∉ x.1.toList ∧ '\n' ∉ (", ".intercalate x.2).toList := by
    decide
  have hcomponent := hwords _ hmem
  rw [message_missingArguments]
  simp only [String.toList_append, List.mem_append, not_or]
  exact ⟨by decide, hcomponent.1, by decide, hcomponent.2, by decide⟩

theorem getLast?_of_mem_checkInvocation {v : Invocation} {f : Finding}
    (h : f ∈ checkInvocation source v) : f.message.toList.getLast? = some '.' := by
  have hstop : ∀ s : String, (s ++ ".").toList.getLast? = some '.' := by
    intro s
    rw [String.toList_append, List.getLast?_append]
    rfl
  rcases List.mem_append.mp h with h | h
  · unfold checkActions at h
    split at h
    · obtain ⟨a, -, rfl⟩ := List.mem_map.mp h
      exact hstop _
    · cases h
  · rw [checkRequirements_eq] at h
    obtain ⟨needed, -, rfl⟩ := List.mem_map.mp h
    exact hstop _

theorem mem_lintTemplate_iff (h : e.active file = [rule true]) {d : Diagnostic} :
    d ∈ e.lintTemplate t source file ↔
      ∃ k r, Resolves t k r ∧ ∃ f ∈ checkInvocation source r.invocation, ofFinding e file f = d := by
  rw [lintTemplate_eq h, List.mem_flatMap]
  simp only [(lists_resolves t).mem_iff, List.mem_map]
  constructor
  · rintro ⟨_, ⟨k, r, hr, rfl⟩, hf⟩
    exact ⟨k, r, hr, hf⟩
  · rintro ⟨k, r, hr, hf⟩
    exact ⟨r.invocation, ⟨k, r, hr, rfl⟩, hf⟩

/-- A message holds a line feed when it quotes one, and only plain actions are quoted. -/
theorem newline_mem_lintTemplate_iff (h : e.active file = [rule true]) :
    (∃ d ∈ e.lintTemplate t source file, '\n' ∈ d.message.toList) ↔
      ∃ k x, PlainActionAt t k x ∧ '\n' ∈ (source.slice x.loc).toList := by
  constructor
  · rintro ⟨_, hd, hmem⟩
    obtain ⟨k, r, hr, f, hf, rfl⟩ := (mem_lintTemplate_iff h).mp hd
    rcases List.mem_append.mp hf with hf | hf
    · obtain ⟨i, hmain, a, ⟨ha, hplain⟩, rfl⟩ := (lists_checkActions source _).mem_iff.mp hf
      obtain ⟨x, hx, rfl⟩ := List.exists_of_getElem?_map ha
      refine ⟨⟨k, i⟩, x, ⟨r, hr, isMain_iff.mp hmain, hx, isPlainAction_iff.mp hplain⟩, ?_⟩
      rw [← x.loc_argument]
      exact newline_mem_plainAction_iff.mp hmem
    · exact absurd hmem (newline_not_mem_checkRequirements hf)
  · rintro ⟨⟨k, i⟩, x, ⟨r, hr, hmain, hx, hplain⟩, hmem⟩
    have ha : r.invocation.arguments[i]? = some x.argument :=
      List.getElem?_map.trans (congrArg (Option.map _) hx)
    have hf : plainAction source x.argument ∈ checkInvocation source r.invocation :=
      List.mem_append_left _ ((lists_checkActions source _).mem_iff.mpr
        ⟨i, isMain_iff.mpr hmain, x.argument, ⟨ha, isPlainAction_iff.mpr hplain⟩, rfl⟩)
    refine ⟨_, (mem_lintTemplate_iff h).mpr ⟨k, r, hr, _, hf, rfl⟩, ?_⟩
    rw [← x.loc_argument] at hmem
    exact newline_mem_plainAction_iff.mpr hmem

/-- Every action that the main header is given as a plain text stands on one line of the source, as far as
it is there at all. -/
def ActionsOnOneLine (t : Template) (source : Source) : Prop :=
  ∀ k x, PlainActionAt t k x → source.IsOutside x.loc ∨ x.loc.start.line = x.loc.stop.line

theorem actionsOnOneLine_iff (t : Template) (text : String) :
    ActionsOnOneLine t (.ofText text) ↔
      ¬ ∃ k x, PlainActionAt t k x ∧ '\n' ∈ ((Source.ofText text).slice x.loc).toList := by
  have hslice : ∀ span, '\n' ∈ ((Source.ofText text).slice span).toList ↔
      ¬ (Source.ofText text).IsOutside span ∧ span.start.line ≠ span.stop.line :=
    fun span => Source.newline_mem_slice_iff fun l hl => Text.not_mem_of_mem_lines hl
  simp only [ActionsOnOneLine, hslice, not_exists, not_and, not_not, Ne, or_iff_not_imp_left]

end TemplateLint.Header

namespace TemplateLint.CompactFormat

open Header (ActionsOnOneLine)

/-- **A compact report of the header rule has one line for each diagnostic if and only if the actions that
it complains about stand on one line each.** Then the lines are the diagnostics; otherwise not even their
number is that of the diagnostics. -/
theorem report_lines_iff {e : Engine} {file : String} (h : e.active file = [Header.rule true])
    (hfile : '\n' ∉ file.toList) (t : Template) (text : String) (f : CompactFormat) :
    (Text.lines (f.report (.ofFile (e.lintTemplate t (.ofText text) file))) =
        (e.lintTemplate t (.ofText text) file).map f.diagnostic ↔
      ActionsOnOneLine t (.ofText text)) ∧
    ((Text.lines (f.report (.ofFile (e.lintTemplate t (.ofText text) file)))).length =
        (e.lintTemplate t (.ofText text) file).length ↔
      ActionsOnOneLine t (.ofText text)) := by
  -- every diagnostic carries the file and the name of the rule, and ends with a full stop
  have hmem : ∀ d ∈ e.lintTemplate t (.ofText text) file,
      (f.diagnostic d).toList.getLast? ≠ some '\r' ∧
        ('\n' ∈ (f.diagnostic d).toList ↔ '\n' ∈ d.message.toList) := by
    intro d hd
    obtain ⟨k, r, hr, finding, hf, rfl⟩ := (Header.mem_lintTemplate_iff h).mp hd
    have hstop : (Header.ofFinding e file finding).message.toList.getLast? = some '.' :=
      Header.getLast?_of_mem_checkInvocation hf
    constructor
    · rw [f.getLast?_diagnostic hstop]
      decide
    · have hrule : '\n' ∉ "header-main".toList := by decide
      exact f.newline_mem_diagnostic_iff hfile hrule
  have hlines : (∀ d ∈ e.lintTemplate t (.ofText text) file, '\n' ∉ (f.diagnostic d).toList) ↔
      ActionsOnOneLine t (.ofText text) := by
    rw [Header.actionsOnOneLine_iff, ← Header.newline_mem_lintTemplate_iff h]
    simp only [not_exists, not_and]
    exact forall₂_congr fun d hd => not_congr (hmem d hd).2
  rw [← hlines]
  exact f.lines_report_iff fun d hd => (hmem d hd).1

/-- The main header with an action as a plain text at a place. -/
def headerWithAction (action : String) (loc : Span) : Template :=
  ⟨[.mustache ⟨.path "wrapper.header" {}, [], ⟨[⟨"close", .string action {}, loc⟩], {}⟩, {}⟩], {}⟩

theorem report_lines_iff_headerWithAction :
    let e : Engine := ⟨{}, [Header.rule true]⟩
    let t := headerWithAction "a b" ⟨⟨1, 17⟩, ⟨1, 28⟩⟩
    let text := "\x7b\x7bwrapper.header close=\"a b\"\x7d\x7d"
    e.active "page.hbs" = [Header.rule true] ∧ '\n' ∉ "page.hbs".toList ∧
    Text.lines (report {} (.ofFile (e.lintTemplate t (.ofText text) "page.hbs"))) =
      ["page.hbs:1:17: error: header-main: " ++
        "Use of actions as Strings should be avoided. You used close=\"a b\"."] ∧
    ActionsOnOneLine t (.ofText text) := by
  have hactive : Engine.active ⟨{}, [Header.rule true]⟩ "page.hbs" = [Header.rule true] := rfl
  refine ⟨hactive, by decide, by decide +kernel, ?_⟩
  exact (report_lines_iff hactive (by decide) _ _ {}).1.mp (by decide +kernel)

/-- One diagnostic takes two lines when it quotes an action that goes over the end of a line. -/
theorem report_stretchedAction :
    let e : Engine := ⟨{}, [Header.rule true]⟩
    let ds := e.lintTemplate (headerWithAction "a\nb" ⟨⟨1, 17⟩, ⟨2, 2⟩⟩)
      (.ofText "\x7b\x7bwrapper.header close=\"a\nb\"\x7d\x7d") "page.hbs"
    e.active "page.hbs" = [Header.rule true] ∧ '\n' ∉ "page.hbs".toList ∧ ds.length = 1 ∧
    Text.lines (report {} (.ofFile ds)) =
      ["page.hbs:1:17: error: header-main: " ++
        "Use of actions as Strings should be avoided. You used close=\"a", "b\"."] := by
  exact ⟨rfl, by decide, by decide +kernel, by decide +kernel⟩

end TemplateLint.CompactFormat
