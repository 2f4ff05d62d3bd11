import Mathlib.Data.List.Forall2
import TemplateLint.Proofs.JsonText
import TemplateLint.Proofs.Sections
import TemplateLint.Proofs.TextLines

/-!
# Colours are decoration

A coloured report has escape sequences in it that switch styles on and off. `Style.strip` deletes them, and
what is left is the report without colours.

* `Style.Decorates` relates a text to what is left of it, with any text behind. So parts can be put
  together, and every part of a report is settled on its own (`decorates_diagnostic`, `decorates_report`).
* `colours_decorate`: the reports and the diagnostics.

A text that holds escape characters itself could lose some of its own, so the texts of the diagnostics must
have none. The numbers of a report never do.
-/

namespace TemplateLint

/-! ### Deleting sequences -/

namespace Style

/-- Whether a character stands between the bracket of a sequence and its end. -/
def isCode (c : Char) : Bool := c.isDigit || c = ';'

/-- What is behind the sequence that a text starts with, if it starts with one. -/
def afterSequence? : List Char → Option (List Char)
  | '\x1b' :: '[' :: cs =>
    match cs.dropWhile isCode with
    | 'm' :: rest => some rest
    | _ => none
  | _ => none

theorem length_lt_of_afterSequence? {cs rest : List Char} (h : afterSequence? cs = some rest) :
    rest.length < cs.length := by
  unfold afterSequence? at h
  split at h
  next cs =>
    have hle := (List.dropWhile_suffix (l := cs) isCode).length_le
    split at h
    next heq =>
      obtain rfl := Option.some.inj h
      rw [heq] at hle
      simp only [List.length_cons] at hle ⊢
      omega
    next => cases h
  next => cases h

/-- A text without the sequences in it. -/
def strip : List Char → List Char
  | [] => []
  | c :: cs =>
    match _h : afterSequence? (c :: cs) with
    | some rest => strip rest
    | none => c :: strip cs
termination_by cs => cs.length
decreasing_by
  · exact length_lt_of_afterSequence? _h
  · simp

/-- A character that does not start a sequence stays. -/
theorem strip_cons_of_ne {c : Char} (h : c ≠ '\x1b') (cs : List Char) : strip (c :: cs) = c :: strip cs := by
  have hnone : afterSequence? (c :: cs) = none := by
    unfold afterSequence?
    split
    next heq => exact absurd (List.cons.inj heq).1 h
    next => rfl
  rw [strip]
  split
  next heq =>
    rw [hnone] at heq
    cases heq
  next => rfl

theorem strip_append_of_not_mem {cs : List Char} (h : '\x1b' ∉ cs) (rest : List Char) :
    strip (cs ++ rest) = cs ++ strip rest := by
  induction cs with
  | nil => rfl
  | cons c cs ih =>
    rw [List.mem_cons, not_or] at h
    rw [List.cons_append, strip_cons_of_ne (Ne.symm h.1), ih h.2, List.cons_append]

theorem strip_sequence {codes : String} (h : ∀ c ∈ codes.toList, isCode c) (rest : List Char) :
    strip (sequence codes ++ rest) = strip rest := by
  have htext : sequence codes ++ rest = '\x1b' :: '[' :: (codes.toList ++ 'm' :: rest) := by
    simp [sequence]
  have hafter : afterSequence? (sequence codes ++ rest) = some rest := by
    have hend : isCode 'm' = false := by decide
    rw [htext]
    simp [afterSequence?, List.dropWhile_append_of_pos h, hend]
  rw [htext] at hafter ⊢
  rw [strip]
  split
  next heq =>
    rw [hafter] at heq
    rw [Option.some.inj heq]
  next heq =>
    rw [hafter] at heq
    cases heq

/-! ### Texts and what is left of them -/

/-- Without its sequences a text is another one, whatever stands behind it. -/
def Decorates (decorated plain : String) : Prop :=
  ∀ rest, strip (decorated.toList ++ rest) = plain.toList ++ strip rest

/-- A text without escape characters. -/
def IsPlain (s : String) : Prop := '\x1b' ∉ s.toList

instance (s : String) : Decidable (IsPlain s) := inferInstanceAs (Decidable ('\x1b' ∉ s.toList))

theorem IsPlain.append {a b : String} (ha : IsPlain a) (hb : IsPlain b) : IsPlain (a ++ b) := by
  unfold IsPlain
  rw [String.toList_append, List.mem_append, not_or]
  exact ⟨ha, hb⟩

theorem IsPlain.decorates {s : String} (h : IsPlain s) : Decorates s s := by
  intro rest
  exact strip_append_of_not_mem h rest

theorem isPlain_replicate (k : Nat) {c : Char} (h : '\x1b' ≠ c) :
    IsPlain (String.ofList (List.replicate k c)) := by
  unfold IsPlain
  rw [String.toList_ofList, List.mem_replicate]
  rintro ⟨-, hc⟩
  exact h hc

namespace Decorates

variable {a a' b b' : String}

theorem literal (s : String) (h : IsPlain s) : Decorates s s := h.decorates

theorem empty : Decorates "" "" := literal "" (by decide)

theorem blank : Decorates " " " " := literal " " (by decide)

theorem newline : Decorates "\n" "\n" := literal "\n" (by decide)

theorem append (ha : Decorates a a') (hb : Decorates b b') : Decorates (a ++ b) (a' ++ b') := by
  intro rest
  rw [String.toList_append, String.toList_append, List.append_assoc, ha, hb, List.append_assoc]

theorem intercalate {sep : String} (hsep : IsPlain sep) {as bs : List String}
    (h : List.Forall₂ Decorates as bs) : Decorates (sep.intercalate as) (sep.intercalate bs) := by
  induction h with
  | nil => exact empty
  | @cons a b as bs hab hrest ih =>
    cases hrest with
    | nil => simpa using hab
    | @cons a' b' as bs hab' hrest =>
      rw [String.intercalate_cons_of_ne_nil (List.cons_ne_nil a' as),
        String.intercalate_cons_of_ne_nil (List.cons_ne_nil b' bs)]
      exact (hab.append hsep.decorates).append ih

/-- Deleting the sequences of a decorated text. -/
theorem strip_eq (h : Decorates a b) : String.ofList (strip a.toList) = b := by
  have hall := h []
  rw [List.append_nil, strip, List.append_nil] at hall
  rw [hall, String.ofList_toList]

end Decorates

/-! ### Painting -/

theorem restart_of_not_mem (again : List Char) {cs : List Char} (h : '\x1b' ∉ cs) :
    restart again cs = cs := by
  induction cs with
  | nil => rfl
  | cons c cs ih =>
    rw [List.mem_cons, not_or] at h
    have hstep : restart again (c :: cs) = c :: restart again cs := by
      apply restart.eq_2
      intro _ hc _
      exact h.1 hc.symm
    rw [hstep, ih h.2]

theorem isCode_of_mem_codes (s : Style) : ∀ c ∈ s.codes.toList, isCode c := by
  apply List.all_eq_true.mp
  cases s <;> decide

theorem decorates_paint (s : Style) {text : String} (h : IsPlain text) :
    Decorates (s.paint text) text := by
  intro rest
  have hreset : ∀ c ∈ "0".toList, isCode c := List.all_eq_true.mp (by decide)
  rw [paint, String.toList_ofList, restart_of_not_mem _ h, List.append_assoc, List.append_assoc, start,
    strip_sequence s.isCode_of_mem_codes, strip_append_of_not_mem h, reset, strip_sequence hreset]

end Style

/-! ### Numbers -/

open Style (IsPlain Decorates)

theorem isPlain_toString (n : Nat) : IsPlain (toString n) := Text.not_mem_toString (by decide) n

theorem isPlain_padLeft (width : Nat) {s : String} (h : IsPlain s) : IsPlain (Text.padLeft width s) := by
  have hblanks := Style.isPlain_replicate (width - s.length) (c := ' ') (by decide)
  exact hblanks.append h

theorem isPlain_fixed (places : Nat) (x : Float) : IsPlain (Decimal.fixed places x) := by
  have hdigits (n : Nat) : '\x1b' ∉ Decimal.digits n := by
    intro hmem
    exact absurd (Json.isDigit_of_mem_digits hmem) (by decide)
  have hpadded (k n : Nat) : '\x1b' ∉ List.replicate k '0' ++ Decimal.digits n := by
    rw [List.mem_append, List.mem_replicate, not_or]
    exact ⟨fun h => absurd h.2 (by decide), hdigits n⟩
  have hpointed (n : Nat) : '\x1b' ∉ Decimal.pointed places n := by
    unfold Decimal.pointed
    split
    · exact hpadded _ n
    · rw [List.mem_append, List.mem_cons, not_or, not_or]
      refine ⟨?_, by decide, ?_⟩
      · exact fun h => hpadded _ n (List.mem_of_mem_take h)
      · exact fun h => hpadded _ n (List.mem_of_mem_drop h)
  unfold IsPlain Decimal.fixed
  rw [String.toList_ofList]
  split
  · rw [List.mem_cons, not_or]
    exact ⟨by decide, hpointed _⟩
  · exact hpointed _

/-! ### The parts of a report -/

/-- A diagnostic none of whose texts has an escape character. -/
structure Diagnostic.IsPlain (d : Diagnostic) : Prop where
  rule : Style.IsPlain d.rule
  message : Style.IsPlain d.message
  file : Style.IsPlain d.location.file
  source : Style.IsPlain d.source
  help : ∀ help ∈ d.help, Style.IsPlain help

/-- A result none of whose texts has an escape character. -/
def LintResult.IsPlain (r : LintResult) : Prop := ∀ d ∈ r.diagnostics, d.IsPlain

namespace TextFormat

/-- The same format without colours. -/
def withoutColor (f : TextFormat) : TextFormat := { f with colored := false }

variable (terminal : Bool) (f : TextFormat)

theorem paint_withoutColor (s : Style) (text : String) :
    f.withoutColor.paint terminal s text = text := rfl

theorem decorates_paint (s : Style) {text : String} (h : IsPlain text) :
    Decorates (f.paint terminal s text) (f.withoutColor.paint terminal s text) := by
  rw [paint_withoutColor, paint, Style.paintIf]
  split
  · exact Style.decorates_paint s h
  · exact h.decorates

theorem isPlain_name (s : Severity) : IsPlain s.name := by
  cases s <;> decide

variable {d : Diagnostic} (hd : d.IsPlain)

include hd in
theorem decorates_headline : Decorates (f.headline terminal d) (f.withoutColor.headline terminal d) := by
  have hplace : IsPlain (d.location.file ++ ":" ++ toString d.location.line.toNat ++ ":" ++
      toString d.location.column.toNat ++ ": ") := by
    have hcolon : IsPlain ":" := by decide
    have hline := isPlain_toString d.location.line.toNat
    have hcolumn := isPlain_toString d.location.column.toNat
    exact ((((hd.file.append hcolon).append hline).append hcolon).append hcolumn).append (by decide)
  have hseverity := f.decorates_paint terminal (severityStyle d.severity) (isPlain_name d.severity)
  have hrule := f.decorates_paint terminal .cyan hd.rule
  exact (((((hplace.decorates.append hseverity).append (.literal "[" (by decide))).append hrule).append
    (.literal "]: " (by decide))).append hd.message.decorates).append .newline

theorem isPlain_bar : IsPlain "|" := by decide

/-- The numbered lines, line by line. -/
theorem decorates_numbered {lines : List String} (h : ∀ line ∈ lines, IsPlain line) (number : UInt64) :
    Decorates (f.numbered terminal number lines) (f.withoutColor.numbered terminal number lines) := by
  induction lines generalizing number with
  | nil => exact .empty
  | cons line lines ih =>
    obtain ⟨hline, hlines⟩ := List.forall_mem_cons.mp h
    have hnumber := f.decorates_paint terminal .blue (isPlain_padLeft 4 (isPlain_toString number.toNat))
    have hbar := f.decorates_paint terminal .blue isPlain_bar
    exact (((((hnumber.append .blank).append hbar).append .blank).append
      hline.decorates).append .newline).append (ih hlines (number + 1))

theorem decorates_carets (source : String) :
    Decorates (f.carets terminal source) (f.withoutColor.carets terminal source) := by
  have hcarets := Style.isPlain_replicate (max source.length 1) (c := '^') (by decide)
  have hbar := f.decorates_paint terminal .blue isPlain_bar
  exact ((((Decorates.literal "     " (by decide)).append hbar).append .blank).append
    (f.decorates_paint terminal .red hcarets)).append .newline

include hd in
theorem decorates_snippet : Decorates (f.snippet terminal d) (f.withoutColor.snippet terminal d) := by
  have hbar := f.decorates_paint terminal .blue isPlain_bar
  have hlines : ∀ line ∈ Text.lines d.source, IsPlain line := by
    intro line hline hc
    exact hd.source (Text.mem_of_mem_lines hline hc).1
  have hnumbered := f.decorates_numbered terminal hlines d.location.line
  refine ((((Decorates.literal "     " (by decide)).append hbar).append .newline).append hnumbered).append ?_
  split
  · exact .empty
  · exact f.decorates_carets terminal d.source

theorem decorates_helpLine {help : String} (h : IsPlain help) :
    Decorates (f.helpLine terminal help) (f.withoutColor.helpLine terminal help) := by
  have hmark : IsPlain "=" := by decide
  exact ((((Decorates.literal "     " (by decide)).append (f.decorates_paint terminal .blue hmark)).append
    (.literal " help: " (by decide))).append h.decorates).append .newline

include hd in
theorem decorates_diagnostic :
    Decorates (f.diagnostic terminal d) (f.withoutColor.diagnostic terminal d) := by
  -- what is shown is the same with and without colours
  have hsource : f.withoutColor.showSource = f.showSource := rfl
  have hhelp : f.withoutColor.showHelp = f.showHelp := rfl
  refine ((f.decorates_headline terminal hd).append ?_).append ?_
  · rw [hsource]
    split
    · exact f.decorates_snippet terminal hd
    · exact .empty
  · rw [hhelp]
    cases f.showHelp with
    | false => exact .empty
    | true =>
      cases hhelp : d.help with
      | none => exact .empty
      | some help => exact f.decorates_helpLine terminal (hd.help help hhelp)

/-! ### The whole report -/

theorem decorates_sectionText {s : Section} (htitle : IsPlain s.title)
    (hs : ∀ d ∈ s.diagnostics, d.IsPlain) :
    Decorates (f.sectionText terminal s) (f.withoutColor.sectionText terminal s) := by
  have hempty : IsPlain "" := by decide
  have hitems : List.Forall₂ Decorates (s.diagnostics.map fun d => f.diagnostic terminal d ++ "\n")
      (s.diagnostics.map fun d => f.withoutColor.diagnostic terminal d ++ "\n") := by
    rw [List.forall₂_map_left_iff, List.forall₂_map_right_iff, List.forall₂_same]
    intro d hd
    exact (f.decorates_diagnostic terminal (hs d hd)).append .newline
  exact ((f.decorates_paint terminal .underline htitle).append .newline).append
    (.intercalate hempty hitems)

/-- A count is written in both reports or in none. -/
theorem decorates_count (style : Style) (n : Nat) {singular plural : String} (hsingular : IsPlain singular)
    (hplural : IsPlain plural) :
    List.Forall₂ Decorates (f.count terminal style n singular plural).toList
      (f.withoutColor.count terminal style n singular plural).toList := by
  have hblank : IsPlain " " := by decide
  have hnoun : IsPlain (if n = 1 then singular else plural) := by
    split
    · exact hsingular
    · exact hplural
  unfold count
  split
  · exact .nil
  · exact .cons (f.decorates_paint terminal style (((isPlain_toString n).append hblank).append hnoun)) .nil

theorem counts_eq (r : LintResult) :
    f.counts terminal r = (f.count terminal .red r.errors "error" "errors").toList ++
      (f.count terminal .yellow r.warnings "warning" "warnings").toList ++
      (f.count terminal .blue r.infos "info" "infos").toList := by
  unfold counts
  cases f.count terminal .red r.errors "error" "errors" <;>
    cases f.count terminal .yellow r.warnings "warning" "warnings" <;>
      cases f.count terminal .blue r.infos "info" "infos" <;> rfl

theorem decorates_counts (r : LintResult) :
    List.Forall₂ Decorates (f.counts terminal r) (f.withoutColor.counts terminal r) := by
  rw [counts_eq, counts_eq]
  refine List.rel_append (List.rel_append ?_ ?_) ?_
  · exact f.decorates_count terminal .red r.errors (by decide) (by decide)
  · exact f.decorates_count terminal .yellow r.warnings (by decide) (by decide)
  · exact f.decorates_count terminal .blue r.infos (by decide) (by decide)

theorem decorates_stats (r : LintResult) :
    Decorates (f.stats terminal r) (f.withoutColor.stats terminal r) := by
  have hfiles : IsPlain (toString r.files ++ (if r.files = 1 then " file" else " files") ++ " processed") := by
    have hnoun : IsPlain (if r.files = 1 then " file" else " files") := by
      split <;> decide
    exact ((isPlain_toString r.files).append hnoun).append (by decide)
  have htime := isPlain_fixed 2 (seconds r.duration)
  refine (((hfiles.decorates.append ?_).append (.literal "\nFinished in " (by decide))).append
    htime.decorates).append (.literal "s\n" (by decide))
  have hcounts := f.decorates_counts terminal r
  revert hcounts
  generalize f.counts terminal r = as
  generalize f.withoutColor.counts terminal r = bs
  intro hcounts
  cases hcounts with
  | nil => exact .empty
  | cons hcount hrest =>
    have hcomma : IsPlain ", " := by decide
    exact (Decorates.literal ": " (by decide)).append (.intercalate hcomma (.cons hcount hrest))

/-- The texts of a section are texts of the diagnostics. -/
theorem isPlain_of_mem_sections {ds : List Diagnostic} (hds : ∀ d ∈ ds, d.IsPlain) {s : Section}
    (hs : s ∈ sections ds) : IsPlain s.title ∧ ∀ d ∈ s.diagnostics, d.IsPlain := by
  have hdivides := divides_sections ds
  have hmem : ∀ d ∈ s.diagnostics, d.IsPlain := by
    intro d hd
    rw [hdivides.holds s hs] at hd
    exact hds d (List.mem_of_mem_filter hd)
  obtain ⟨d, hd, htitle⟩ := Option.map_eq_some_iff.mp (hdivides.titled s hs)
  rw [← htitle]
  exact ⟨(hmem d (List.mem_of_mem_head? hd)).file, hmem⟩

theorem decorates_report {r : LintResult} (hr : r.IsPlain) :
    Decorates (f.report terminal r) (f.withoutColor.report terminal r) := by
  have hempty : IsPlain "" := by decide
  have hsections : List.Forall₂ Decorates ((sections r.diagnostics).map (f.sectionText terminal))
      ((sections r.diagnostics).map (f.withoutColor.sectionText terminal)) := by
    rw [List.forall₂_map_left_iff, List.forall₂_map_right_iff, List.forall₂_same]
    intro s hs
    obtain ⟨htitle, hmem⟩ := isPlain_of_mem_sections hr hs
    exact f.decorates_sectionText terminal htitle hmem
  have hstats : f.withoutColor.showStats = f.showStats := rfl
  refine (Decorates.intercalate hempty hsections).append ?_
  rw [hstats]
  split
  · exact f.decorates_stats terminal r
  · exact .empty

/-! ### Terminals without colours -/

/-- A terminal that shows no styles gets the texts as they are. -/
theorem paint_false : f.paint false = f.withoutColor.paint false := by
  funext s text
  rw [paint_withoutColor, paint_of_off (Bool.and_false _)]

theorem numbered_false : f.numbered false = f.withoutColor.numbered false := by
  funext number lines
  induction lines generalizing number with
  | nil => rfl
  | cons line lines ih => rw [numbered, numbered, ih, paint_false]

theorem diagnostic_false : f.diagnostic false = f.withoutColor.diagnostic false := by
  have hpaint := f.paint_false
  have hnumbered := f.numbered_false
  funext d
  simp only [diagnostic, headline, snippet, carets, helpLine, hpaint, hnumbered]
  rfl

theorem report_false : f.report false = f.withoutColor.report false := by
  have hpaint := f.paint_false
  have hsection : f.sectionText false = f.withoutColor.sectionText false := by
    funext s
    rw [sectionText, sectionText, diagnostic_false, hpaint]
  have hcounts : f.counts false = f.withoutColor.counts false := by
    funext r
    simp only [counts, count, hpaint]
  funext r
  unfold report stats
  rw [hsection, hcounts]
  rfl

/-- **Colours are only decoration.** Deleting the escape sequences from a report or a diagnostic with colours
gives the one without colours, when no text of the diagnostics has an escape character. On a terminal that
shows no styles the two are the same as they stand, for all texts. What else the format shows, its source
lines, help and counts, plays no part. -/
theorem colours_decorate (f : TextFormat) (terminal : Bool) :
    (∀ r : LintResult, r.IsPlain →
      String.ofList (Style.strip ({ f with colored := true }.report terminal r).toList) =
        { f with colored := false }.report terminal r) ∧
    (∀ d : Diagnostic, d.IsPlain →
      String.ofList (Style.strip ({ f with colored := true }.diagnostic terminal d).toList) =
        { f with colored := false }.diagnostic terminal d) ∧
    (∀ r, { f with colored := true }.report false r = { f with colored := false }.report false r) ∧
    ∀ d, { f with colored := true }.diagnostic false d = { f with colored := false }.diagnostic false d := by
  refine ⟨?_, ?_, ?_, ?_⟩
  · intro r hr
    exact (decorates_report terminal { f with colored := true } hr).strip_eq
  · intro d hd
    exact (decorates_diagnostic terminal { f with colored := true } hd).strip_eq
  · exact congrFun (report_false { f with colored := true })
  · exact congrFun (diagnostic_false { f with colored := true })

/-- A result with two files, lines that pass from one digit to two, and help. -/
def decoratedResult : LintResult :=
  { diagnostics := [⟨"r", .error, "m", ⟨"b", 9, 0⟩, "x\ny", some "h"⟩, ⟨"r", .info, "n", ⟨"a", 1, 2⟩, "z", none⟩],
    files := 2, filesWithErrors := 1, errors := 1, infos := 1 }

theorem isPlain_decoratedResult : decoratedResult.IsPlain := by
  intro d hd
  rcases List.mem_pair.mp hd with rfl | rfl
  · exact ⟨by decide, by decide, by decide, by decide, by decide⟩
  · exact ⟨by decide, by decide, by decide, by decide, by decide⟩

theorem colours_decorate_decoratedResult :
    decoratedResult.IsPlain ∧
    String.ofList (Style.strip (report true { showStats := false } decoratedResult).toList) =
      report true { colored := false, showStats := false } decoratedResult ∧
    report true { colored := false, showStats := false } decoratedResult =
      "a\na:1:2: info[r]: n\n     |\n   1 | z\n     | ^\n\n" ++
        "b\nb:9:0: error[r]: m\n     |\n   9 | x\n  10 | y\n     = help: h\n\n" ∧
    report true { showSource := false, showHelp := false, showStats := false } decoratedResult =
      "\x1b[4ma\x1b[0m\na:1:2: \x1b[34minfo\x1b[0m[\x1b[36mr\x1b[0m]: n\n\n" ++
        "\x1b[4mb\x1b[0m\nb:9:0: \x1b[1;31merror\x1b[0m[\x1b[36mr\x1b[0m]: m\n\n" := by
  refine ⟨isPlain_decoratedResult, ?_, by decide +kernel, by decide +kernel⟩
  exact (colours_decorate { showStats := false } true).1 decoratedResult isPlain_decoratedResult

end TextFormat

end TemplateLint
