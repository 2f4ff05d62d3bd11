import TemplateLint.Lint.Engine
import Mathlib.Data.List.Basic

/-!
# The totals of a run

A result carries its diagnostics together with counts, and the counts are kept separately: those of a
file when the file has been linted, those of a run when results are merged. `SumsUp` says what a result
has to be, given what was found in each file.

* `SumsUp.ofFile`, `SumsUp.merge`: one file, and one step of a run. By induction over the files
  `sumsUp_lint` is the same for every run.
* `SumsUp.unique`: but for its duration nothing is left open in a result. So results can be merged in any
  portions.
* `Unusable` says which files hold no template, and `lintFile_of_unusable` what is found there.
* `lint_totals`: all this for the runs of an engine, with the exit code.
-/

namespace TemplateLint

/-! ### What a result has to be -/

namespace LintResult

/-- The result sums up what was found in each file of a run. -/
structure SumsUp (found : List (List Diagnostic)) (r : LintResult) : Prop where
  diagnostics : r.diagnostics = found.flatten
  files : r.files = found.length
  filesWithErrors : r.filesWithErrors = found.countP fun ds => ∃ d ∈ ds, d.severity = .error
  filesWithWarnings : r.filesWithWarnings = found.countP fun ds => ∃ d ∈ ds, d.severity = .warning
  errors : r.errors = found.flatten.countP (·.severity = .error)
  warnings : r.warnings = found.flatten.countP (·.severity = .warning)
  infos : r.infos = found.flatten.countP (·.severity = .info)

namespace SumsUp

variable {found more : List (List Diagnostic)} {r s : LintResult}

theorem nil : SumsUp [] {} := ⟨rfl, rfl, rfl, rfl, rfl, rfl, rfl⟩

theorem countP_singleton (s : Severity) (ds : List Diagnostic) :
    (if 0 < count s ds then 1 else 0) =
      [ds].countP fun ds => ∃ d ∈ ds, d.severity = s := by
  simp [count, List.countP_pos_iff, List.countP_singleton]

theorem ofFile (ds : List Diagnostic) : SumsUp [ds] (.ofFile ds) where
  diagnostics := by simp [LintResult.ofFile]
  files := rfl
  filesWithErrors := countP_singleton .error ds
  filesWithWarnings := countP_singleton .warning ds
  errors := by simp [LintResult.ofFile, count]
  warnings := by simp [LintResult.ofFile, count]
  infos := by simp [LintResult.ofFile, count]

theorem merge (hr : SumsUp found r) (hs : SumsUp more s) : SumsUp (found ++ more) (r.merge s) where
  diagnostics := by rw [LintResult.merge, hr.diagnostics, hs.diagnostics, List.flatten_append]
  files := by rw [LintResult.merge, hr.files, hs.files, List.length_append]
  filesWithErrors := by
    rw [LintResult.merge, hr.filesWithErrors, hs.filesWithErrors, List.countP_append]
  filesWithWarnings := by
    rw [LintResult.merge, hr.filesWithWarnings, hs.filesWithWarnings, List.countP_append]
  errors := by
    rw [LintResult.merge, hr.errors, hs.errors, List.flatten_append, List.countP_append]
  warnings := by
    rw [LintResult.merge, hr.warnings, hs.warnings, List.flatten_append, List.countP_append]
  infos := by
    rw [LintResult.merge, hr.infos, hs.infos, List.flatten_append, List.countP_append]

theorem lasting (hr : SumsUp found r) (duration : Nat) : SumsUp found { r with duration } :=
  ⟨hr.diagnostics, hr.files, hr.filesWithErrors, hr.filesWithWarnings, hr.errors, hr.warnings, hr.infos⟩

/-- Two results of one run differ in their durations only. -/
theorem unique (hr : SumsUp found r) (hs : SumsUp found s) (h : r.duration = s.duration) : r = s := by
  obtain ⟨diagnostics, files, filesWithErrors, filesWithWarnings, errors, warnings, infos, _⟩ := r
  obtain ⟨rfl, rfl, rfl, rfl, rfl, rfl, rfl⟩ := hr
  obtain ⟨diagnostics, files, filesWithErrors, filesWithWarnings, errors, warnings, infos, _⟩ := s
  obtain ⟨rfl, rfl, rfl, rfl, rfl, rfl, rfl⟩ := hs
  obtain rfl := h
  rfl

/-! ### The exit code -/

theorem exitCode_eq (hr : SumsUp found r) :
    r.exitCode =
      if ∃ d ∈ r.diagnostics, d.severity = .error then 2
      else if ∃ d ∈ r.diagnostics, d.severity = .warning then 1
      else 0 := by
  simp only [exitCode, hr.errors, hr.warnings, hr.diagnostics, List.countP_pos_iff, decide_eq_true_eq]

end SumsUp

theorem isClean_iff (r : LintResult) : r.isClean ↔ r.exitCode = 0 := by
  unfold isClean exitCode
  by_cases herrors : r.errors = 0
  · by_cases hwarnings : r.warnings = 0 <;> simp [herrors, hwarnings, Nat.pos_iff_ne_zero]
  · simp [herrors, Nat.pos_iff_ne_zero]

end LintResult

open LintResult (SumsUp)

/-! ### Files without a template -/

namespace FileSystem

/-- The path leads to a file, and its bytes spell the text. -/
def Reads (fs : FileSystem) (path text : String) : Prop :=
  ∃ bytes, fs.lookup path = .ok (.file bytes) ∧ String.fromUTF8? bytes = some text

/-- The file cannot be used, and its one finding has the given rule. -/
inductive Unusable (fs : FileSystem) (path : String) : String → Prop
  -- there is no such file, the system does not let it be read, or its bytes are no text
  | unreadable : (∀ text, ¬ fs.Reads path text) → Unusable fs path "file-read-error"
  -- the text is not JSON
  | notJson {text : String} : fs.Reads path text → Json.parse? text = none →
      Unusable fs path "parse-error"
  -- the root is not marked as a template
  | notTemplate {text : String} {j : Json} : fs.Reads path text → Json.parse? text = some j →
      j.get? "type" ≠ some (.string "Template") → Unusable fs path "parse-error"
  -- the root is marked as a template but is none
  | mismatch {text : String} {j : Json} : fs.Reads path text → Json.parse? text = some j →
      j.get? "type" = some (.string "Template") → (∀ t, Template.read j ≠ .ok t) →
      Unusable fs path "parse-error"
  -- the template is there, but the text that it was made from cannot be read
  | unreadableSource {text : String} {j : Json} {t : Template} {source : String} :
      fs.Reads path text → Json.parse? text = some j →
      j.get? "type" = some (.string "Template") → Template.read j = .ok t →
      fs.sourcePath? path = some source → (∀ text, ¬ fs.Reads source text) →
      Unusable fs path "file-read-error"

theorem readText_eq_ok_iff {fs : FileSystem} {path text : String} :
    fs.readText path = .ok text ↔ fs.Reads path text := by
  unfold readText Reads
  cases fs.lookup path with
  | error err => simp [bind, Except.bind]
  | ok entry =>
    cases entry with
    | directory | unreadable => simp [bind, Except.bind, throw, throwThe, MonadExceptOf.throw]
    | file bytes =>
      cases hbytes : String.fromUTF8? bytes <;>
        simp [bind, Except.bind, pure, Except.pure, hbytes, throw, throwThe, MonadExceptOf.throw]

theorem readText_of_not_reads {fs : FileSystem} {path : String} (h : ∀ text, ¬ fs.Reads path text) :
    ∃ err, fs.readText path = .error err := by
  cases hr : fs.readText path with
  | error err => exact ⟨err, rfl⟩
  | ok text => exact absurd (readText_eq_ok_iff.mp hr) (h text)

end FileSystem

/-- The rule under which a load error is reported. -/
def LoadError.rule : LoadError → String
  | io _ => "file-read-error"
  | _ => "parse-error"

theorem Engine.loadFailure_eq (path : String) (failure : LoadError) :
    ∃ message, loadFailure path failure =
      ⟨failure.rule, .error, message, ⟨path, 0, 0⟩, "", none⟩ := by
  cases failure with
  | io | malformed | notTemplate | mismatch => exact ⟨_, rfl⟩

namespace FileSystem

variable {fs : FileSystem} {path rule text : String} {j : Json}

theorem loadTemplate_of_reads (h : fs.Reads path text) :
    fs.loadTemplate path =
      (Template.ofText path text).bind fun t => (fs.loadSource path).map fun source => (t, source) := by
  rw [loadTemplate, readText_eq_ok_iff.mpr h]
  rfl

theorem ofText_of_notJson (hj : Json.parse? text = none) :
    Template.ofText path text = .error (.malformed path) := by
  simp [Template.ofText, hj, throw, throwThe, MonadExceptOf.throw]

theorem ofText_of_type (hj : Json.parse? text = some j)
    (htype : j.get? "type" = some (.string "Template")) :
    Template.ofText path text = (Template.read j).mapError (.mismatch path) := by
  simp [Template.ofText, hj, htype]

theorem ofText_of_not_type (path : String) (hj : Json.parse? text = some j)
    (htype : j.get? "type" ≠ some (.string "Template")) :
    ∃ type, Template.ofText path text = .error (.notTemplate path type) := by
  simp only [Template.ofText, hj]
  split
  · next h => exact absurd h htype
  · exact ⟨_, rfl⟩
  · exact ⟨_, rfl⟩

theorem Unusable.loadTemplate (h : fs.Unusable path rule) :
    ∃ failure, fs.loadTemplate path = .error failure ∧ failure.rule = rule := by
  cases h with
  | unreadable hnot =>
    obtain ⟨err, herr⟩ := readText_of_not_reads hnot
    refine ⟨.io err, ?_, rfl⟩
    rw [FileSystem.loadTemplate, herr]
    rfl
  | notJson hreads hj =>
    refine ⟨.malformed path, ?_, rfl⟩
    rw [loadTemplate_of_reads hreads, ofText_of_notJson hj]
    rfl
  | notTemplate hreads hj htype =>
    obtain ⟨type, htext⟩ := ofText_of_not_type path hj htype
    refine ⟨.notTemplate path type, ?_, rfl⟩
    rw [loadTemplate_of_reads hreads, htext]
    rfl
  | @mismatch _ j hreads hj htype hnone =>
    cases hread : Template.read j with
    | ok t => exact absurd hread (hnone t)
    | error m =>
      refine ⟨.mismatch path m, ?_, rfl⟩
      rw [loadTemplate_of_reads hreads, ofText_of_type hj htype, hread]
      rfl
  | unreadableSource hreads hj htype hread hsource hnot =>
    obtain ⟨err, herr⟩ := readText_of_not_reads hnot
    refine ⟨.io err, ?_, rfl⟩
    rw [loadTemplate_of_reads hreads, ofText_of_type hj htype, hread, loadSource, hsource]
    simp only [herr]
    rfl

theorem unusable_or_loadTemplate (fs : FileSystem) (path : String) :
    (∃ rule, fs.Unusable path rule) ∨ ∃ t source, fs.loadTemplate path = .ok (t, source) := by
  -- the cases are those of the loader, in its order; each failure is one way to be unusable
  by_cases hreads : ∃ text, fs.Reads path text
  case neg => exact Or.inl ⟨_, .unreadable (not_exists.mp hreads)⟩
  obtain ⟨text, hreads⟩ := hreads
  cases hj : Json.parse? text with
  | none => exact Or.inl ⟨_, .notJson hreads hj⟩
  | some j =>
  by_cases htype : j.get? "type" = some (.string "Template")
  case neg => exact Or.inl ⟨_, .notTemplate hreads hj htype⟩
  cases hread : Template.read j with
  | error m => exact Or.inl ⟨_, .mismatch hreads hj htype (by simp [hread])⟩
  | ok t =>
  cases hsource : fs.sourcePath? path with
  | none =>
    refine Or.inr ⟨t, .empty, ?_⟩
    rw [loadTemplate_of_reads hreads, ofText_of_type hj htype, hread, loadSource, hsource]
    rfl
  | some source =>
    by_cases hreads' : ∃ text, fs.Reads source text
    case neg =>
      exact Or.inl ⟨_, .unreadableSource hreads hj htype hread hsource (not_exists.mp hreads')⟩
    obtain ⟨text', hreads'⟩ := hreads'
    refine Or.inr ⟨t, .ofText text', ?_⟩
    rw [loadTemplate_of_reads hreads, ofText_of_type hj htype, hread, loadSource, hsource]
    simp only [readText_eq_ok_iff.mpr hreads']
    rfl

end FileSystem

namespace Engine

variable {fs : FileSystem} {path rule : String}

/-- A file that cannot be used has one finding, whatever the rules are. -/
theorem lintFile_of_unusable (h : fs.Unusable path rule) :
    ∃ message, ∀ e : Engine,
      e.lintFile fs path = [⟨rule, .error, message, ⟨path, 0, 0⟩, "", none⟩] := by
  obtain ⟨failure, hload, rfl⟩ := h.loadTemplate
  obtain ⟨message, hfailure⟩ := loadFailure_eq path failure
  refine ⟨message, fun e => ?_⟩
  rw [lintFile, hload]
  simp only [hfailure]

/-! ### Runs -/

theorem sumsUp_foldl (e : Engine) (fs : FileSystem) {found : List (List Diagnostic)} {r : LintResult}
    (hr : SumsUp found r) (files : List String) :
    SumsUp (found ++ files.map (e.lintFile fs))
      (files.foldl (fun r file => r.merge (.ofFile (e.lintFile fs file))) r) := by
  -- the run goes on from any result that sums up what was found so far
  induction files generalizing found r with
  | nil => simpa using hr
  | cons file files ih =>
    have hstep := ih (hr.merge (.ofFile (e.lintFile fs file)))
    rwa [List.append_assoc] at hstep

/-- The result of a run sums up what is found in its files. -/
theorem sumsUp_lint (e : Engine) (fs : FileSystem) (files : List String) :
    SumsUp (files.map (e.lintFile fs)) (e.lint fs files) :=
  sumsUp_foldl e fs .nil files

theorem diagnostics_lint (e : Engine) (fs : FileSystem) (files : List String) :
    (e.lint fs files).diagnostics = files.flatMap (e.lintFile fs) :=
  (sumsUp_lint e fs files).diagnostics.trans List.flatMap_def.symm

/-- Two runs, one after the other, have the merged result, however long they took. -/
theorem merge_lint (e : Engine) (fs : FileSystem) (xs ys : List String) (dx dy d : Nat) :
    { ({ e.lint fs xs with duration := dx } : LintResult).merge
        { e.lint fs ys with duration := dy } with duration := d } =
      { e.lint fs (xs ++ ys) with duration := d } := by
  -- both sides sum up the same files, and a sum leaves only the duration open
  have hparts := ((sumsUp_lint e fs xs).lasting dx).merge ((sumsUp_lint e fs ys).lasting dy)
  rw [← List.map_append] at hparts
  exact (hparts.lasting d).unique ((sumsUp_lint e fs (xs ++ ys)).lasting d) rfl

/-- **The result of a run is the sum of what is found in its files.** Its diagnostics are those of the files
in their order, its counts are the numbers of these diagnostics and of the files that have some, and the
exit code tells the worst of them. A run in two parts has the merged result of the parts. A file that
cannot be used adds one error about the file as a whole, under a rule that tells whether reading or
understanding it failed, and the rest of the run is as without it; every other file adds what the rules
find in its template. -/
theorem lint_totals (e : Engine) (fs : FileSystem) :
    (∀ files, SumsUp (files.map (e.lintFile fs)) (e.lint fs files) ∧
      (e.lint fs files).exitCode =
        (if ∃ d ∈ (e.lint fs files).diagnostics, d.severity = .error then 2
          else if ∃ d ∈ (e.lint fs files).diagnostics, d.severity = .warning then 1
          else 0) ∧
      ((e.lint fs files).isClean ↔ (e.lint fs files).exitCode = 0)) ∧
    (∀ xs ys dx dy d,
      { ({ e.lint fs xs with duration := dx } : LintResult).merge
          { e.lint fs ys with duration := dy } with duration := d } =
        { e.lint fs (xs ++ ys) with duration := d }) ∧
    (∀ path rule, fs.Unusable path rule → ∃ message,
      (∀ e' : Engine, e'.lintFile fs path = [⟨rule, .error, message, ⟨path, 0, 0⟩, "", none⟩]) ∧
      ∀ xs ys, (e.lint fs (xs ++ path :: ys)).diagnostics =
        (e.lint fs xs).diagnostics ++ ⟨rule, .error, message, ⟨path, 0, 0⟩, "", none⟩ ::
          (e.lint fs ys).diagnostics) ∧
    ∀ path, (∃ rule, fs.Unusable path rule) ∨ ∃ t source,
      fs.loadTemplate path = .ok (t, source) ∧ e.lintFile fs path = e.lintTemplate t source path := by
  refine ⟨fun files => ?_, merge_lint e fs, fun path rule h => ?_, fun path => ?_⟩
  · have hsum := sumsUp_lint e fs files
    exact ⟨hsum, hsum.exitCode_eq, LintResult.isClean_iff _⟩
  · obtain ⟨message, hfound⟩ := lintFile_of_unusable h
    refine ⟨message, hfound, fun xs ys => ?_⟩
    simp only [diagnostics_lint, List.flatMap_append, List.flatMap_cons, hfound e,
      List.singleton_append]
  · rcases fs.unusable_or_loadTemplate path with h | ⟨t, source, hload⟩
    · exact Or.inl h
    · exact Or.inr ⟨t, source, hload, by rw [lintFile, hload]⟩

-- bytes that are no text, a template without findings, no template, no file and a file that may not be
-- read; the first is named twice
example :
    let fs : FileSystem := ⟨.directory [("bytes.json", .file ⟨#[0xff]⟩), ("list.json", .file "[]".toUTF8),
      ("page.json", .file "\x7b\"type\":\"Template\"\x7d".toUTF8),
      ("shut.json", .unreadable "Permission denied (os error 13)")], [], none⟩
    let r := (Engine.mk {} []).lint fs
      ["bytes.json", "page.json", "list.json", "none.json", "shut.json", "bytes.json"]
    (r.diagnostics.map fun d => (d.rule, d.location.file)) =
      [("file-read-error", "bytes.json"), ("parse-error", "list.json"),
        ("file-read-error", "none.json"), ("file-read-error", "shut.json"),
        ("file-read-error", "bytes.json")] ∧
      (r.files, r.filesWithErrors, r.errors, r.exitCode) = (6, 5, 5, 2) := by
  decide +kernel

end Engine

end TemplateLint
